import StudioMigration.Text.Uri
import StudioMigration.Xml.Name

/-!
# Checking namespaces

A document may be well-formed and still use namespaces wrongly. The reader of the checks refuses any such
document (`XmlNode.namespacesFit`). The reader of the package editor makes remarks, in the order of the
document, and lets the last one decide (`acceptable`); it leaves declarations without effect out, and
takes a name with an unbound qualifier as a name without a namespace (`XmlNode.settled`).
-/

namespace StudioMigration

/-! ## The strict way -/

/-- Whether the declarations of a tag may be made. A namespace has no closing brace, which ends it in
resolved names. -/
def XmlTag.declarationsFit (tag : XmlTag) : Bool :=
  tag.declarations.all (fun (qualifier, uri) =>
    qualifier != "xmlns" && uri != declarationNamespace &&
      (if qualifier == "xml" then uri == xmlNamespace else uri != xmlNamespace) &&
      (qualifier == "" || uri != "") && !uri.toList.contains '\x7d') &&
    (tag.declarations.map (·.1)).Nodup

/-- Whether a qualifier is missing or bound. -/
def XmlScope.binds (scope : XmlScope) (qualifier : String) : Bool :=
  qualifier == "" || (qualifier != "xmlns" && (scope.uri? qualifier).any (· != ""))

/-- Whether every qualifier in a tag is bound and no attribute occurs twice, `scope` being in force
inside the element. -/
def XmlTag.namesFit (scope : XmlScope) (tag : XmlTag) : Bool :=
  scope.binds tag.name.qualifier && tag.attributes.all (fun a => scope.binds a.1.qualifier) &&
    (tag.attributes.map (·.1)).Nodup &&
    ((tag.attributes.filter (·.1.qualifier != "")).map fun a =>
      (scope.attributeUri a.1, a.1.base)).Nodup

mutual

def XmlNode.namespacesFit (scope : XmlScope) : XmlNode → Bool
  | .element tag children =>
    tag.declarationsFit && tag.namesFit (scope.inside tag) &&
      XmlNode.allNamespacesFit (scope.inside tag) children
  | _ => true

def XmlNode.allNamespacesFit (scope : XmlScope) : List XmlNode → Bool
  | [] => true
  | node :: rest => node.namespacesFit scope && XmlNode.allNamespacesFit scope rest

end

/-! ## The lenient way -/

/-- A remark on a document. -/
inductive XmlRemark where
  | warning
  | error
  | fatal
  /-- An element is named, which must be a proper name and the only one of its kind. -/
  | identifier (value : List Char)
  deriving DecidableEq, Repr

def takesEffect (qualifier uri : String) : Bool :=
  qualifier != "xml" && qualifier != "xmlns" && uri != xmlNamespace && uri != declarationNamespace &&
    (qualifier == "" || uri != "")

/-- The tag with those declarations only that have an effect. -/
def XmlTag.effective (tag : XmlTag) : XmlTag :=
  { tag with declarations := tag.declarations.filter fun d => takesEffect d.1 d.2 }

/-- The remarks on a declaration; a qualifier must not have a colon in it. -/
def declarationRemarks (qualifier uri : String) : List XmlRemark :=
  (if qualifier.toList.contains ':' then [.error] else []) ++
    if qualifier == "" then
      if uri == "" then []
      else
        (if !Uri.isReference uri.toList then [.error]
          else if !Uri.isAbsolute uri.toList then [.warning] else []) ++
          (if takesEffect qualifier uri then [] else [.error])
    else if qualifier == "xml" then (if uri == xmlNamespace then [] else [.error])
    else if takesEffect qualifier uri && Uri.isReference uri.toList then []
    else [.error]

def attributeRemarks (name : XmlName) (value : List Char) : List XmlRemark :=
  (if Xml.isProper name then [] else [.error]) ++
    (if name == ⟨"xml", "space"⟩ && value != "default".toList && value != "preserve".toList then
      [.warning] else [])

/-- The remarks on the names of attributes in a scope; `earlier` are those before. -/
def attributeNameRemarks (scope : XmlScope) (earlier : List XmlName) :
    List XmlName → List XmlRemark
  | [] => []
  | name :: rest =>
    (if !scope.binds name.qualifier then [.error]
      else if name.qualifier != "" && earlier.any (fun other =>
        other.qualifier != "" && other.base == name.base &&
          scope.attributeUri other == scope.attributeUri name) then [.error]
      else []) ++ attributeNameRemarks scope (earlier ++ [name]) rest

/-- The remarks on a tag, `scope` being in force inside the element. A declaration or an attribute must
not occur twice. -/
def XmlTag.remarks (scope : XmlScope) (tag : XmlTag) : List XmlRemark :=
  (if Xml.isProper tag.name then [] else [.error]) ++
    tag.declarations.flatMap (fun d => declarationRemarks d.1 d.2) ++
    tag.attributes.flatMap (fun a => attributeRemarks a.1 a.2) ++
    (if (tag.effective.declarations.map (·.1)).Nodup && (tag.attributes.map (·.1)).Nodup then []
      else [.fatal]) ++
    attributeNameRemarks scope [] (tag.attributes.map (·.1)) ++
    (if scope.binds tag.name.qualifier then [] else [.error]) ++
    (tag.attributes.filter (·.1 == ⟨"xml", "id"⟩)).map fun a => .identifier a.2

/-- The remarks on the target of an instruction. Names that start with `xml` are set aside, but for
two. -/
def targetRemarks (target : String) : List XmlRemark :=
  (if (target.toList.take 3).map Char.toLower == "xml".toList &&
      target != "xml-stylesheet" && target != "xml-model" then [.warning] else []) ++
    (if target.toList.contains ':' then [.error] else [])

mutual

def XmlNode.remarks (scope : XmlScope) : XmlNode → List XmlRemark
  | .element tag children =>
    tag.remarks (scope.inside tag.effective) ++
      XmlNode.allRemarks (scope.inside tag.effective) children
  | .instruction target _ => targetRemarks target
  | _ => []

def XmlNode.allRemarks (scope : XmlScope) : List XmlNode → List XmlRemark
  | [] => []
  | node :: rest => node.remarks scope ++ XmlNode.allRemarks scope rest

end

def XmlDocument.remarks (document : XmlDocument) : List XmlRemark :=
  XmlNode.allRemarks [] (document.before ++ [document.root] ++ document.after)

/-- Whether some remarks are those on a document that is accepted: none is fatal, and the last one is no
error. The names of elements in `taken` are in use. -/
def acceptable (taken : List (List Char)) (isFine : Bool) : List XmlRemark → Bool
  | [] => isFine
  | .warning :: rest => acceptable taken true rest
  | .error :: rest => acceptable taken false rest
  | .fatal :: _ => false
  | .identifier value :: rest =>
    let fits := Xml.isIdentifier value && !taken.contains value
    acceptable (value :: taken) (isFine && fits) rest

/-- The name that is kept of a name: if its qualifier is not bound, the whole is the base. -/
def XmlName.settled (scope : XmlScope) (name : XmlName) : XmlName :=
  if scope.binds name.qualifier then name else ⟨"", name.render⟩

/-- The tag that is kept of a tag, `scope` being in force inside the element. -/
def XmlTag.settled (scope : XmlScope) (tag : XmlTag) : XmlTag where
  name := tag.name.settled scope
  declarations := tag.effective.declarations
  attributes := tag.attributes.map fun a => (a.1.settled scope, a.2)

mutual

def XmlNode.settled (scope : XmlScope) : XmlNode → XmlNode
  | .element tag children =>
    .element (tag.settled (scope.inside tag.effective))
      (XmlNode.allSettled (scope.inside tag.effective) children)
  | node => node

def XmlNode.allSettled (scope : XmlScope) : List XmlNode → List XmlNode
  | [] => []
  | node :: rest => node.settled scope :: XmlNode.allSettled scope rest

end

def XmlDocument.settled (document : XmlDocument) : XmlDocument :=
  let scope := XmlScope.inside [] document.tag.effective
  { document with
    tag := document.tag.settled scope
    children := XmlNode.allSettled scope document.children }

end StudioMigration
