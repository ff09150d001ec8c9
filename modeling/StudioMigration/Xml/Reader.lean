import StudioMigration.Xml.Encoding
import StudioMigration.Xml.Namespace
import StudioMigration.Xml.Token

/-!
# Reading XML

A document is read in four steps: its bytes are decoded as the declaration says, the text is cut into
tokens, the tokens are nested, and the namespaces are checked. Whatever is not well-formed gives no
document.

The package editor leaves out white space between elements unless it could be content: a blank piece is
kept if it is the only content of its element, if text stands beside it or at the start of the element,
if text with white space or a character beyond ASCII in front was kept in the element before, or if the
document asks for it.
-/

namespace StudioMigration.Xml

open StudioMigration.Text.Utf8 (Bytes)

/-! ## Nesting -/

/-- What is known about white space in an open element. -/
inductive Spacing where
  | unknown
  /-- Text that starts with white space, or beyond ASCII, was kept. -/
  | seen
  /-- The document asks for white space to be kept. -/
  | preserved
  /-- The document leaves it to the reader. -/
  | standard
  deriving DecidableEq, Repr

/-- An open element: its tag, its children so far, the last one first, and its spacing. -/
structure Frame where
  tag : XmlTag
  children : List XmlNode
  spacing : Spacing
  deriving Repr

def Frame.add (frame : Frame) (node : XmlNode) : Frame :=
  { frame with children := node :: frame.children }

/-- Adds text to an open element; adjacent texts become one. -/
def Frame.addText (frame : Frame) (content : List Char) : Frame :=
  match frame.children with
  | .text earlier :: rest => { frame with children := .text (earlier ++ content) :: rest }
  | _ => frame.add (.text content)

/-- Whether a blank piece of text in an open element means nothing. -/
def Frame.ignores (frame : Frame) (follow : Follow) : Bool :=
  (frame.spacing == .unknown || frame.spacing == .standard) &&
    (follow == .markup || follow == .closingTag || follow == .lineEnd) &&
    !(frame.children.isEmpty && follow == .closingTag) &&
    !(frame.children.head?.any XmlNode.isText) &&
    !(frame.children.getLast?.any XmlNode.isText)

variable (reader : XmlReader)

def Frame.addPiece (frame : Frame) (content : List Char) (follow : Follow) : Frame :=
  if reader == .editing && content.all isBlank && frame.ignores follow then frame
  else
    let frame := frame.addText content
    if frame.spacing == .unknown && content.head?.any (fun c => isBlank c || 0x7F < c.toNat) then
      { frame with spacing := .seen }
    else frame

def spacingOf (outer : Option Spacing) (tag : XmlTag) : Spacing :=
  match tag.attributes.find? (·.1 == ⟨"xml", "space"⟩) with
  | some (_, value) =>
    if value == "preserve".toList then .preserved
    else if value == "default".toList then .standard
    else inherited
  | none => inherited
where
  inherited : Spacing :=
    match outer with
    | none => .unknown
    | some .seen => .unknown
    | some spacing => spacing

structure Draft where
  before : List XmlNode
  frames : List Frame
  root : Option (XmlTag × List XmlNode)
  after : List XmlNode
  deriving Repr

def Draft.addNode (draft : Draft) (node : XmlNode) : Draft :=
  match draft.frames with
  | frame :: frames => { draft with frames := frame.add node :: frames }
  | [] =>
    if draft.root.isNone then { draft with before := node :: draft.before }
    else { draft with after := node :: draft.after }

def Draft.addElement (draft : Draft) (tag : XmlTag) (children : List XmlNode) : Draft :=
  match draft.frames with
  | frame :: frames => { draft with frames := frame.add (.element tag children) :: frames }
  | [] => { draft with root := some (tag, children) }

def Draft.take (draft : Draft) : Token → Option Draft
  | .start tag isEmpty =>
    if draft.frames.isEmpty && draft.root.isSome then none
    else if isEmpty then some (draft.addElement tag [])
    else
      let outer := draft.frames.head?.map Frame.spacing
      some { draft with frames := ⟨tag, [], spacingOf outer tag⟩ :: draft.frames }
  | .finish name =>
    match draft.frames with
    | [] => none
    | frame :: frames =>
      if frame.tag.name.render.toList == name then
        some (Draft.addElement { draft with frames := frames } frame.tag frame.children.reverse)
      else none
  | .text content follow =>
    match draft.frames with
    | [] => if content.all isBlank then some draft else none
    | frame :: frames =>
      some { draft with frames := frame.addPiece reader content follow :: frames }
  | .reference c =>
    match draft.frames with
    | [] => none
    | frame :: frames => some { draft with frames := frame.addText [c] :: frames }
  | .verbatim content =>
    match draft.frames with
    | [] => none
    | frame :: frames =>
      some { draft with frames := frame.addText content :: frames }
  | .comment content => some (draft.addNode (.comment content))
  | .instruction target content => some (draft.addNode (.instruction target content))

def nest? (tokens : List Token) : Option XmlDocument := do
  let draft ← tokens.foldlM (Draft.take reader) ⟨[], [], none, []⟩
  if draft.frames.isEmpty then
    let (tag, children) ← draft.root
    return ⟨draft.before.reverse, tag, children, draft.after.reverse⟩
  else none

/-! ## Depth -/

mutual

/-- How many elements are nested in a node, itself included. -/
def depth : XmlNode → Nat
  | .element _ children => depthBelow children + 1
  | _ => 0

def depthBelow : List XmlNode → Nat
  | [] => 0
  | node :: rest => max (depth node) (depthBelow rest)

end

/-- How deep the editor allows elements to be nested. -/
def maxDepth : Nat := 257

/-! ## Documents -/

/-- The remarks on the version of a document. The editor warns of later versions and refuses any that
does not start with one. -/
def versionRemarks (version : List Char) : List XmlRemark :=
  if version == "1.0".toList then []
  else if version.head? == some '1' then [.warning]
  else [.fatal]

/-- The document that a reader accepts, given its declaration and its nodes. -/
def accept? (declaration : Option Declaration) (document : XmlDocument) : Option XmlDocument :=
  match reader with
  | .inspecting => if document.root.namespacesFit [] then some document else none
  | .editing =>
    let remarks := (declaration.toList.flatMap fun d => versionRemarks d.version) ++ document.remarks
    if depth document.root ≤ maxDepth && acceptable [] true remarks then some document.settled
    else none

def read (bytes : Bytes) : Except XmlRefusal XmlDocument := do
  let (declaration, text) ← documentText reader bytes
  let document := do
    let tokens ← tokens? reader text
    let nested ← nest? reader tokens
    accept? reader declaration nested
  match document with
  | some document => return document
  | none => throw .malformed

end StudioMigration.Xml
