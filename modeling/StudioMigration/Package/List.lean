import StudioMigration.Fault
import StudioMigration.Xml.Reader
import StudioMigration.Xml.Writer

/-!
# Package lists

A package list is an XML document with an element `Objects` below its root, whose elements `Object` name
what belongs to the package. An object of type `Package` either names a package of its own or refers to
the package file of another one.

* `PackageList.presence` says how a package is listed.
* `PackageList.add` lists a package.
-/

namespace StudioMigration

open StudioMigration.Text.Utf8 (Bytes)

/-- Reads a package list; white space between elements is left out. -/
def readPackageList (bytes : Bytes) : Except Fault XmlDocument :=
  (Xml.read .editing bytes).mapError (.xml .editing)

namespace PackageList

/-! ## Objects -/

variable (document : XmlDocument)

/-- The default namespace of the root element, if it has one. -/
def defaultNamespace? : Option String :=
  ((document.scope.uri? "").filter (· != ""))

/-- Whether a node below the root is an element with a resolved name. -/
def isNamed (uri base : String) (node : XmlNode) : Bool :=
  match node with
  | .element tag _ =>
    tag.name.base == base && (document.scope.inside tag).elementUri tag.name == uri
  | _ => false

def properName (tag : XmlTag) : Except Fault String :=
  if Xml.isProper tag.name then .ok tag.name.base else .error (.improperName tag.name.base)

/-- The place of the first element with the given name proper; `place` is that of the first node. A
comment or an instruction before it cannot be passed over. -/
def baseIndex? (base : String) : Nat → List XmlNode → Except Fault (Option Nat)
  | _, [] => .ok none
  | place, .element tag _ :: rest => do
    let name ← properName tag
    if name == base then return some place else baseIndex? base (place + 1) rest
  | place, .text _ :: rest => baseIndex? base (place + 1) rest
  | _, _ :: _ => .error .notAnElement

/-- The place of the element `Objects` among the children of the root: in the default namespace, else
without a namespace, else in any. -/
def objectsIndex? : Except Fault (Option Nat) :=
  let inDefault :=
    (defaultNamespace? document).bind fun uri =>
      document.children.findIdx? (isNamed document uri "Objects")
  match inDefault with
  | some place => .ok (some place)
  | none =>
    match document.children.findIdx? (isNamed document "" "Objects") with
    | some place => .ok (some place)
    | none => baseIndex? "Objects" 0 document.children

/-- The tag and the children of the element at a place below the root. -/
def elementAt? (place : Nat) : Option (XmlTag × List XmlNode) :=
  match document.children[place]? with
  | some (.element tag children) => some (tag, children)
  | _ => none

def objects? : Except Fault (Option (XmlTag × List XmlNode)) := do
  let place ← objectsIndex? document
  return place.bind (elementAt? document)

/-! ## Entries -/

structure PackageEntry where
  isReference : Bool
  /-- A package name or, for a reference, a path. -/
  text : String
  deriving DecidableEq, Repr

/-- The value of an attribute without namespace. -/
def plainAttribute? (tag : XmlTag) (name : String) : Option (List Char) :=
  (tag.attributes.find? fun a => a.1 == ⟨"", name⟩).map (·.2)

/-- The text before the first child that is no text. -/
def leadingText : List XmlNode → List Char
  | .text content :: rest => content ++ leadingText rest
  | _ => []

def entryOf? (tag : XmlTag) (children : List XmlNode) : Option PackageEntry :=
  if tag.name.base == "Object" && plainAttribute? tag "Type" == some "Package".toList then
    some {
      isReference := Text.lower ((plainAttribute? tag "Reference").getD []) == "true".toList
      text := String.ofList (Text.trim (leadingText children)) }
  else none

/-- The entry that a node is, if it is one. A comment or an instruction is refused. -/
def readEntry : XmlNode → Except Fault (Option PackageEntry)
  | .element tag children => do
    let _ ← properName tag
    return entryOf? tag children
  | .text _ => .ok none
  | _ => .error .notAnElement

def entries : List XmlNode → Except Fault (List PackageEntry)
  | [] => .ok []
  | node :: rest => do
    let entry ← readEntry node
    let others ← entries rest
    return entry.toList ++ others

def PackageEntry.names (entry : PackageEntry) (package : String) : Bool :=
  !entry.isReference && entry.text == package

/-- Whether an entry refers to a package of the given name, in either spelling of paths. -/
def PackageEntry.refersTo (entry : PackageEntry) (package : String) : Bool :=
  entry.isReference &&
    Text.hasInfix
      ('\\' :: Text.lower package.toList ++ "\\package.pkg".toList)
      (Text.lower (Text.replaceAll ['/'] ['\\'] entry.text.toList))

/-- How a package is listed. -/
structure Presence where
  isOwn : Bool
  reference : Option String
  deriving DecidableEq, Repr

def presence (package : String) : Except Fault Presence := do
  match ← objects? document with
  | none => return ⟨false, none⟩
  | some (_, children) =>
    let found ← entries children
    return {
      isOwn := found.any fun entry => entry.names package
      reference :=
        ((found.filter fun entry => entry.refersTo package).getLast?).map (·.text) }

/-- Whether a package of its own is listed among some nodes. Nodes after it are not looked at. -/
def hasOwn (package : String) : List XmlNode → Except Fault Bool
  | [] => .ok false
  | node :: rest => do
    let entry ← readEntry node
    if entry.any fun e => e.names package then return true else hasOwn package rest

/-! ## Adding -/

/-- The qualifiers that stand for a namespace in a scope, the innermost declaration first. A qualifier
that is declared anew further in does not count. -/
def qualifiersFor (uri : String) (scope : XmlScope) : List String :=
  (scope.filter fun (qualifier, bound) =>
    bound == uri && scope.uri? qualifier == some uri).map (·.1)

def freshQualifier (scope : XmlScope) : String :=
  let inUse := scope.map (·.1)
  ((List.range (inUse.length + 1)).map fun n => s!"ns{n}").find? (fun name => !inUse.contains name)
    |>.getD "ns"

/-- The name of a new element `Object` in a namespace, and the declaration it needs. -/
def objectName (uri : Option String) (scope : XmlScope) : XmlName × List (String × String) :=
  match uri with
  | none => (⟨"", "Object"⟩, [])
  | some uri =>
    match qualifiersFor uri scope with
    | qualifier :: _ => (⟨qualifier, "Object"⟩, [])
    | [] =>
      let qualifier := freshQualifier scope
      (⟨qualifier, "Object"⟩, [(qualifier, uri)])

def newObject (objectsTag : XmlTag) (package : String) : XmlNode :=
  let (name, declarations) :=
    objectName (defaultNamespace? document) (document.scope.inside objectsTag)
  .element ⟨name, declarations, [(⟨"", "Type"⟩, "Package".toList)]⟩ [.text package.toList]

/-- The document with a node added at the end of the element at a place below the root. -/
def appendAt (place : Nat) (node : XmlNode) : XmlDocument :=
  { document with
    children := document.children.modify place fun
      | .element tag children => .element tag (children ++ [node])
      | other => other }

/-- Lists a package as one of its own: the new document, or nothing if it is listed already. A name with
characters that no document may have cannot be listed. -/
def add (package : String) : Except Fault (Option XmlDocument) := do
  match ← objectsIndex? document with
  | none => throw .noPackageList
  | some place =>
    match elementAt? document place with
    | none => throw .noPackageList
    | some (tag, children) =>
      if ← hasOwn package children then return none
      else if !package.toList.all Xml.isDocumentChar then throw .unfitText
      else return some (appendAt document place (newObject document tag package))

end PackageList

end StudioMigration
