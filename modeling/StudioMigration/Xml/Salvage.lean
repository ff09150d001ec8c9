import StudioMigration.Xml.Reader

/-!
# Salvaging broken documents

Reads the elements of a document that need not be well-formed. Whatever cannot be read is passed over:

* an end tag ends the innermost element, whatever its name;
* a start tag that breaks off makes an empty element, and what follows belongs around it;
* elements that are still open at the end are ended there;
* a comment, an instruction or verbatim text without an end takes all that follows;
* nothing counts behind the root element.

Only elements are kept, not the text between them.
-/

namespace StudioMigration.Xml

open StudioMigration.Text.Utf8 (Bytes)

/-- What is left of a token in a broken document. -/
inductive Scrap where
  /-- The start of an element; `isOpen` says whether its tag is complete and does not end it. -/
  | start (tag : XmlTag) (isOpen : Bool)
  | finish
  /-- White space, a comment or an instruction. -/
  | aside
  | junk
  deriving Repr

/-! ## Scraps -/

/-- The rest of a text behind the first occurrence of `piece`, or its end. -/
def behind (piece : List Char) (text : List Char) : List Char :=
  match before? piece text with
  | some (_, rest) => rest.drop piece.length
  | none => []

/-- The value of an attribute behind its opening quote, up to the closing one or to a left angle
bracket, and the rest. -/
def looseValue (quote : Char) : List Char → List Char × List Char
  | [] => ([], [])
  | c :: rest =>
    if c == quote then ([], rest)
    else if c == '<' then ([], c :: rest)
    else
      let (value, after) := looseValue quote rest
      (c :: value, after)

/-- How a tag goes on where an attribute is complete: whether its element is open, and the rest. -/
def tagEnd : List Char → Bool × List Char
  | '>' :: rest => (true, rest)
  | '/' :: '>' :: rest => (false, rest)
  | text => (false, text)

def endsTag : List Char → Bool
  | '>' :: _ => true
  | '/' :: '>' :: _ => true
  | text => text.isEmpty

/-- Reads the attributes and the end of a tag as far as they can be read. The text has no white space in
front; `fuel` bounds the number of attributes. -/
def looseAttributes : Nat → List Char → List (XmlName × List Char) × Bool × List Char
  | 0, text => ([], tagEnd text)
  | fuel + 1, text =>
    if endsTag text then ([], tagEnd text)
    else
      match name? .editing text with
      | none => ([], tagEnd text)
      | some (name, rest) =>
        match rest.dropWhile isBlank with
        | '=' :: rest =>
          match rest.dropWhile isBlank with
          | quote :: rest =>
            if quote != '"' && quote.toNat != 0x27 then ([], tagEnd (quote :: rest))
            else
              let (value, rest) := looseValue quote rest
              if rest.head?.any isBlank then
                let (attributes, ending) := looseAttributes fuel (rest.dropWhile isBlank)
                ((name, value) :: attributes, ending)
              else ([(name, value)], tagEnd rest)
          | [] => ([], false, [])
        | rest => ([], tagEnd rest)

/-- What follows a left angle bracket, and the rest. -/
def scrapMarkup : List Char → Scrap × List Char
  | '!' :: '-' :: '-' :: rest => (.aside, behind ['-', '-', '>'] rest)
  | '!' :: '[' :: 'C' :: 'D' :: 'A' :: 'T' :: 'A' :: '[' :: rest => (.junk, behind [']', ']', '>'] rest)
  | '?' :: rest =>
    match written? .editing rest with
    | some (_, rest) => (.aside, behind ['?', '>'] rest)
    | none => (.junk, rest)
  | '/' :: rest =>
    let after := ((written? .editing rest).map (·.2)).getD rest
    match after.dropWhile isBlank with
    | '>' :: rest => (.finish, rest)
    | rest => (.finish, rest)
  | rest =>
    match name? .editing rest with
    | none => (.junk, rest)
    | some (name, rest) =>
      let (attributes, isOpen, rest) := looseAttributes (rest.length + 1) (rest.dropWhile isBlank)
      (.start (tagOf name attributes) isOpen, rest)

/-- The scraps of a text; `fuel` bounds their number. -/
def scraps : Nat → List Char → List Scrap
  | _, [] => []
  | 0, _ => []
  | fuel + 1, '<' :: rest =>
    let (scrap, rest) := scrapMarkup rest
    scrap :: scraps fuel rest
  | fuel + 1, text =>
    let content := text.takeWhile (· != '<')
    (if content.all isBlank then .aside else .junk) :: scraps fuel (text.drop content.length)

/-! ## Nesting -/

/-- What has been salvaged of a document. -/
inductive Wreck where
  /-- Nothing but comments, instructions and white space. -/
  | bare
  /-- There are open elements, the innermost first. -/
  | inside (frames : List (XmlTag × List XmlNode))
  /-- The root element has ended. -/
  | complete (tag : XmlTag) (children : List XmlNode)
  | lost
  deriving Repr

/-- Adds an element to the innermost open one, or makes it the root. -/
def Wreck.close (tag : XmlTag) (children : List XmlNode) : List (XmlTag × List XmlNode) → Wreck
  | [] => .complete tag children
  | (outer, siblings) :: rest => .inside ((outer, .element tag children :: siblings) :: rest)

def Wreck.closeAll (tag : XmlTag) (children : List XmlNode) :
    List (XmlTag × List XmlNode) → XmlTag × List XmlNode
  | [] => (tag, children)
  | (outer, siblings) :: rest =>
    Wreck.closeAll outer (.element tag children :: siblings).reverse rest

/-- Starts an element inside the given open ones. -/
def Wreck.enter (tag : XmlTag) (isOpen : Bool) (frames : List (XmlTag × List XmlNode)) : Wreck :=
  if isOpen then .inside ((tag, []) :: frames) else Wreck.close tag [] frames

/-- Salvages a document from its scraps. Reading stops where elements are nested too deep. -/
def nestScraps : Wreck → List Scrap → Wreck
  | wreck, [] => wreck
  | .lost, _ => .lost
  | .complete tag children, _ => .complete tag children
  | .bare, .aside :: rest => nestScraps .bare rest
  | .bare, .start tag isOpen :: rest => nestScraps (Wreck.enter tag isOpen []) rest
  | .bare, _ => .lost
  | .inside frames, .start tag isOpen :: rest =>
    if maxDepth ≤ frames.length then .inside frames
    else nestScraps (Wreck.enter tag isOpen frames) rest
  | .inside [], .finish :: _ => .lost
  | .inside ((tag, children) :: frames), .finish :: rest =>
    nestScraps (Wreck.close tag children.reverse frames) rest
  | .inside frames, _ :: rest => nestScraps (.inside frames) rest

def Wreck.root? : Wreck → Option (XmlTag × List XmlNode)
  | .complete tag children => some (tag, children)
  | .inside ((tag, children) :: frames) => some (Wreck.closeAll tag children.reverse frames)
  | _ => none

/-! ## Documents -/

/-- The text of a document behind its declaration, if there is one. A declaration that cannot be read
goes up to the first right angle bracket; bytes that are no UTF-8 are read as Latin-1. -/
def looseText? (bytes : Bytes) : Option (List Char) := do
  let (found, body) := detect .editing bytes
  let start :=
    match found with
    | some (.utf16 order) => ((Charset.utf16 order).decode body).getD []
    | _ => Text.Latin1.decode body
  let encoding := (readDeclaration .editing start).bind fun (declaration, _) =>
    declaration.bind (·.encoding)
  let charset ← (charsetFor .editing found encoding).toOption
  let text := (charset.decode body).getD (Text.Latin1.decode body)
  match readDeclaration .editing text with
  | some (_, rest) => some rest
  | none => some (behind ['>'] text)

def salvage? (bytes : Bytes) : Option XmlDocument := do
  let text ← looseText? bytes
  let body := text.takeWhile (· != Char.ofNat 0)
  let (tag, children) ← (nestScraps .bare (scraps body.length body)).root?
  return XmlDocument.settled ⟨[], tag, children, []⟩

end StudioMigration.Xml
