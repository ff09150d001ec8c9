import StudioMigration.Text.Basic

/-!
# XML documents

Documents as trees. A tag keeps the qualifiers of names and the namespace declarations as they are
written, so that a document can be written again; `XmlScope` finds out what a qualifier stands for.
-/

namespace StudioMigration

/-- A name as written: an optional qualifier and the name proper. -/
structure XmlName where
  qualifier : String
  base : String
  deriving DecidableEq, Repr, Inhabited

def XmlName.render (name : XmlName) : String :=
  if name.qualifier == "" then name.base else name.qualifier ++ ":" ++ name.base

/-- What stands between the angle brackets that start an element. `declarations` binds qualifiers to
namespaces, the empty qualifier being the default. -/
structure XmlTag where
  name : XmlName
  declarations : List (String × String)
  attributes : List (XmlName × List Char)
  deriving DecidableEq, Repr, Inhabited

inductive XmlNode where
  | element (tag : XmlTag) (children : List XmlNode)
  | text (content : List Char)
  | comment (content : List Char)
  /-- A processing instruction; its content may be missing, which is not the same as empty. -/
  | instruction (target : String) (content : Option (List Char))
  deriving Repr, Inhabited

def XmlNode.isText : XmlNode → Bool
  | .text _ => true
  | _ => false

/-- A document: its root element, and the comments and instructions around it. -/
structure XmlDocument where
  before : List XmlNode
  tag : XmlTag
  children : List XmlNode
  after : List XmlNode
  deriving Repr, Inhabited

/-! ## Namespaces -/

/-- The declarations in force, the innermost first. -/
abbrev XmlScope := List (String × String)

def xmlNamespace : String := "http://www.w3.org/XML/1998/namespace"

def declarationNamespace : String := "http://www.w3.org/2000/xmlns/"

namespace XmlScope

variable (scope : XmlScope)

/-- The declarations in force inside an element. -/
def inside (tag : XmlTag) : XmlScope := tag.declarations ++ scope

def uri? (qualifier : String) : Option String :=
  if qualifier == "xml" then some xmlNamespace
  else (scope.find? (·.1 == qualifier)).map (·.2)

/-- The namespace of an element's name; without a default it has none. -/
def elementUri (name : XmlName) : String :=
  (scope.uri? name.qualifier).getD ""

/-- The namespace of an attribute's name; an unqualified one has none. -/
def attributeUri (name : XmlName) : String :=
  if name.qualifier == "" then "" else (scope.uri? name.qualifier).getD ""

end XmlScope

def XmlDocument.root (document : XmlDocument) : XmlNode := .element document.tag document.children

/-! ## Finding elements -/

/-- An element with resolved names and without its content. -/
structure XmlElement where
  uri : String
  base : String
  /-- Namespace, name and value of each attribute. -/
  attributes : List (String × String × List Char)
  deriving DecidableEq, Repr

def XmlElement.attribute? (element : XmlElement) (uri base : String) : Option (List Char) :=
  (element.attributes.find? fun a => a.1 == uri && a.2.1 == base).map (·.2.2)

/-- A tag with its names resolved in the scope inside the element. -/
def XmlTag.resolve (scope : XmlScope) (tag : XmlTag) : XmlElement where
  uri := scope.elementUri tag.name
  base := tag.name.base
  attributes := tag.attributes.map fun a => (scope.attributeUri a.1, a.1.base, a.2)

mutual

def XmlNode.elements (scope : XmlScope) : XmlNode → List XmlElement
  | .element tag children =>
    tag.resolve (scope.inside tag) :: XmlNode.allElements (scope.inside tag) children
  | _ => []

/-- The elements at and below some nodes, in document order. -/
def XmlNode.allElements (scope : XmlScope) : List XmlNode → List XmlElement
  | [] => []
  | node :: rest => node.elements scope ++ XmlNode.allElements scope rest

end

namespace XmlDocument

variable (document : XmlDocument)

/-- The declarations in force in the root element. -/
def scope : XmlScope := XmlScope.inside [] document.tag

def rootElement : XmlElement := document.tag.resolve document.scope

def descendants : List XmlElement :=
  XmlNode.allElements document.scope document.children

def childElements : List XmlElement :=
  document.children.filterMap fun
    | .element tag _ => some (tag.resolve (document.scope.inside tag))
    | _ => none

end XmlDocument

/-! ## Readers

The checks and the package editor read documents by different rules. The checks go by the older rules for
names and refuse every breach of the rules on namespaces. The editor goes by the newer rules for names,
leaves out white space between elements, and forgives a breach that is followed by something it merely
warns about. -/

/-- Who reads a document, which decides the rules. -/
inductive XmlReader where
  | inspecting
  | editing
  deriving DecidableEq, Repr

/-- Why a document cannot be read. -/
inductive XmlRefusal where
  | malformed
  | unknownEncoding (name : String)
  /-- Its encoding takes several bytes for a character, in a way that is not supported. -/
  | wideEncoding
  deriving DecidableEq, Repr

def XmlRefusal.describe : XmlRefusal → String
  | .malformed => "<XML-ERROR>"
  | .unknownEncoding name => s!"unknown encoding: {name}"
  | .wideEncoding => "multi-byte encodings are not supported"

end StudioMigration
