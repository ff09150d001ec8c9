import StudioMigration.Xml.Name

/-!
# XML tokens

Cuts the text of a document into tags, references, comments, instructions and pieces of character
data. A piece of character data remembers what it is followed by, which decides whether a reader may
leave it out.
-/

namespace StudioMigration.Xml

/-- What a piece of character data is followed by. -/
inductive Follow where
  | closingTag
  | markup
  | reference
  | lineEnd
  | other
  deriving DecidableEq, Repr

inductive Token where
  /-- The start of an element, which `isEmpty` also ends. -/
  | start (tag : XmlTag) (isEmpty : Bool)
  /-- The end of an element, with its name as written. -/
  | finish (name : List Char)
  | text (content : List Char) (follow : Follow)
  /-- A character that was written as a reference. -/
  | reference (c : Char)
  /-- Character data in which nothing is markup. -/
  | verbatim (content : List Char)
  | comment (content : List Char)
  | instruction (target : String) (content : Option (List Char))
  deriving Repr

/-! ## Parts of markup -/

/-- The value of a digit in a base up to sixteen. -/
def digit? (base : Nat) (c : Char) : Option Nat :=
  let value :=
    if '0' ≤ c && c ≤ '9' then c.toNat - 48
    else if 'a' ≤ c && c ≤ 'f' then c.toNat - 87
    else if 'A' ≤ c && c ≤ 'F' then c.toNat - 55
    else base
  if value < base then some value else none

def charOfDigits? (base : Nat) (digits : List Char) : Option Char := do
  if digits.isEmpty then none
  let values ← digits.mapM (digit? base)
  let code := values.foldl (fun n d => base * n + d) 0
  if code ≤ 0x10FFFF && !(0xD800 ≤ code && code ≤ 0xDFFF) && isDocumentChar (Char.ofNat code) then
    some (Char.ofNat code)
  else none

/-- The reference that follows an ampersand: the character it stands for and its length with the
semicolon. -/
def reference? (text : List Char) : Option (Char × Nat) := do
  let body := text.takeWhile (· != ';')
  if body.length == text.length then none
  let size := body.length + 1
  match body with
  | '#' :: 'x' :: digits => (charOfDigits? 16 digits).map fun c => (c, size)
  | '#' :: digits => (charOfDigits? 10 digits).map fun c => (c, size)
  | ['a', 'm', 'p'] => some ('&', size)
  | ['l', 't'] => some ('<', size)
  | ['g', 't'] => some ('>', size)
  | ['q', 'u', 'o', 't'] => some ('"', size)
  | ['a', 'p', 'o', 's'] => some (Char.ofNat 0x27, size)
  | _ => none

/-- Reads an attribute value up to its closing quote, with `skip` characters of a reference or line
end still to be passed over. White space becomes blanks; references stand for themselves. -/
def readValue (quote : Char) : Nat → List Char → Option (List Char × List Char)
  | _, [] => none
  | skip + 1, _ :: rest => readValue quote skip rest
  | 0, c :: rest =>
    if c == quote then some ([], rest)
    else if c == '<' then none
    else if c == '&' then do
      let (character, size) ← reference? rest
      let (value, after) ← readValue quote size rest
      return (character :: value, after)
    else do
      let skip := if c == '\r' && rest.head? == some '\n' then 1 else 0
      let (value, after) ← readValue quote skip rest
      return ((if isBlank c then ' ' else c) :: value, after)

/-- Reads the attributes and the end of a tag. The attributes are in order of appearance; `fuel`
bounds their number. -/
def readAttributes (reader : XmlReader) :
    Nat → List Char → Option (List (XmlName × List Char) × Bool × List Char)
  | 0, _ => none
  | fuel + 1, text =>
    match text.dropWhile isBlank with
    | '>' :: rest => some ([], false, rest)
    | '/' :: '>' :: rest => some ([], true, rest)
    | body =>
      if !(text.head?.any isBlank) then none
      else do
        let (name, rest) ← name? reader body
        match rest.dropWhile isBlank with
        | '=' :: rest =>
          match rest.dropWhile isBlank with
          | quote :: rest =>
            if quote != '"' && quote.toNat != 0x27 then none
            else do
              let (value, rest) ← readValue quote 0 rest
              let (attributes, isEmpty, rest) ← readAttributes reader fuel rest
              return ((name, value) :: attributes, isEmpty, rest)
          | [] => none
        | _ => none

/-- Whether an attribute declares a namespace, and for which qualifier. -/
def declared? (name : XmlName) : Option String :=
  if name.qualifier == "xmlns" then some name.base
  else if name.qualifier == "" && name.base == "xmlns" then some ""
  else none

/-- A tag from its name and its attributes in order of appearance. -/
def tagOf (name : XmlName) (attributes : List (XmlName × List Char)) : XmlTag where
  name := name
  declarations := attributes.filterMap fun a =>
    (declared? a.1).map fun qualifier => (qualifier, String.ofList a.2)
  attributes := attributes.filter fun a => (declared? a.1).isNone

/-- Splits a text before the first occurrence of `piece`. -/
def before? (piece : List Char) : List Char → Option (List Char × List Char)
  | [] => if piece.isEmpty then some ([], []) else none
  | c :: rest =>
    if piece.isPrefixOf (c :: rest) then some ([], c :: rest)
    else (before? piece rest).map fun (taken, after) => (c :: taken, after)

/-- ASCII characters of running text. -/
def isPlain (c : Char) : Bool :=
  c == '\t' || c == '\n' || (0x20 ≤ c.toNat && c.toNat ≤ 0x7F && c != '<' && c != '&')

def endsText (c : Char) : Bool := c == '<' || c == '&'

/-- Whether running text goes on in ASCII, or ends, at the front of a text. -/
def goesOnPlain (text : List Char) : Bool :=
  text.head?.any fun c => isPlain c || endsText c

/-- The length of the next piece of running text. A piece ends at markup and at references; a piece in
ASCII also ends at a carriage return and at other characters. -/
def pieceLength (text : List Char) : Nat :=
  match text with
  | '\r' :: '\n' :: rest =>
    if goesOnPlain rest then 2 + (rest.takeWhile isPlain).length
    else (text.takeWhile fun c => !endsText c).length
  | c :: _ =>
    if isPlain c then (text.takeWhile isPlain).length
    else (text.takeWhile fun c => !endsText c).length
  | [] => 0

/-- What stands at the front of a text. -/
def followOf : List Char → Follow
  | '<' :: '/' :: _ => .closingTag
  | '<' :: _ => .markup
  | '&' :: _ => .reference
  | '\r' :: _ => .lineEnd
  | _ => .other

/-! ## Tokens -/

variable (reader : XmlReader)

/-- The target of an instruction, and the rest. The checks allow no colon in it; the name of the
declaration is allowed in no case. -/
def target? (text : List Char) : Option (List Char × List Char) := do
  let (target, rest) ← written? reader text
  if target.map Char.toLower == ['x', 'm', 'l'] then none
  if reader == .inspecting && target.contains ':' then none
  return (target, rest)

/-- The content of an instruction, which white space separates from the target. -/
def instructionContent? : List Char → Option (Option (List Char))
  | [] => some none
  | c :: rest =>
    if isBlank c then some (some (Text.unifyNewlines (rest.dropWhile isBlank))) else none

/-- The markup that follows a left angle bracket, and the rest. -/
def readMarkup : List Char → Option (Token × List Char)
  | '!' :: '-' :: '-' :: rest => do
    let (content, after) ← before? ['-', '-'] rest
    match after with
    | '-' :: '-' :: '>' :: rest => some (.comment (Text.unifyNewlines content), rest)
    | _ => none
  | '!' :: '[' :: 'C' :: 'D' :: 'A' :: 'T' :: 'A' :: '[' :: rest => do
    let (content, after) ← before? [']', ']', '>'] rest
    return (.verbatim (Text.unifyNewlines content), after.drop 3)
  | '?' :: rest => do
    let (target, rest) ← target? reader rest
    let (content, after) ← before? ['?', '>'] rest
    let content ← instructionContent? content
    return (.instruction (String.ofList target) content, after.drop 2)
  | '/' :: rest => do
    let (name, rest) ← written? reader rest
    match rest.dropWhile isBlank with
    | '>' :: rest => some (.finish name, rest)
    | _ => none
  | rest => do
    let (name, rest) ← name? reader rest
    let (attributes, isEmpty, rest) ← readAttributes reader (rest.length + 1) rest
    return (.start (tagOf name attributes) isEmpty, rest)

/-- The token at the front of a text that is not empty, and the rest. -/
def readToken (text : List Char) : Option (Token × List Char) :=
  match text with
  | '<' :: rest => readMarkup reader rest
  | '&' :: rest => do
    let (c, size) ← reference? rest
    return (.reference c, rest.drop size)
  | _ =>
    let size := pieceLength text
    let content := text.take size
    if Text.hasInfix [']', ']', '>'] content then none
    else some (.text (Text.unifyNewlines content) (followOf (text.drop size)), text.drop size)

/-- All tokens of a text; `fuel` bounds their number. -/
def readTokens (reader : XmlReader) : Nat → List Char → Option (List Token)
  | _, [] => some []
  | 0, _ => none
  | fuel + 1, text => do
    let (token, rest) ← readToken reader text
    let tokens ← readTokens reader fuel rest
    return token :: tokens

def tokens? (text : List Char) : Option (List Token) :=
  readTokens reader text.length text

end StudioMigration.Xml
