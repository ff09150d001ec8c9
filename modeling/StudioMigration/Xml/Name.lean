import StudioMigration.Xml.Tree

/-!
# Names in XML

Which characters a document and its names may have, and how a name is cut into a qualifier and the name
proper. The older rules list every letter; the newer ones leave out whole blocks and allow the rest.

A name with colons in unusual places is taken apart as far as possible. Such a name keeps a colon in its
base, by which `XmlName.isProper` tells it.
-/

namespace StudioMigration.Xml.NameTable

def starting : List (Nat × Nat) :=
  Text.rangesFrom 0x80
    [0x11995C7025C7E12723B312124E693C1391189139591A101010103613D13A10121048B62A0B90F5B4133C1938914E1722921F16B16A089,
     0x102C034111615A1210160A23A0137B111111615A21453A1692112C3301615A21273C192B034E6B891790131691426896C1961B6D252B,
     0x10113F54911015D7BA16C7916A12173C1104C411916A12173C16C411916A121739921732313110113312353C2116B033211615A21274C,
     0x1610117120201900D011313010101012503130101039010101D41110121110196C295C6EC0C173F942019110111120101216136020112,
     0x15CE8D3ABE97C291B9493A97A091B048AF21A9021301DC61254945233612301614E26B101010172525C2525A61B943BA688E0090400D,
     0x13CEDA2B9E]

/-- Characters that a name may have, but not at its start. -/
def following : List (Nat × Nat) :=
  Text.rangesFrom 0x80
    [0x102A19212901922126100F21A1921593379100F278891923112695C906195972903F9011101216A10A29C33FB05C12B5896D10B8907E,
     0x1312252F12A197917312162F12A197917312162F21A0979019312342F12A196910922135100F21A190B21217100F279390B22144101F,
     0x125B91213C94154C03CCF04496AC8901634A10154513A1E14010103919616F19251019115207A9191093962018B1969019]

end StudioMigration.Xml.NameTable

namespace StudioMigration.Xml

/-! ## Characters -/

variable (c : Char)

def isBlank : Bool := c == ' ' || c == '\t' || c == '\n' || c == '\r'

/-- Characters that a document may contain. -/
def isDocumentChar : Bool :=
  let n := c.toNat
  n == 9 || n == 10 || n == 13 || (0x20 ≤ n && n ≤ 0xFFFD) || 0x10000 ≤ n

/-- Characters that a name may start with by the older rules; the colon, which separates a qualifier, is
left out. -/
def isListedStart : Bool :=
  if c.toNat < 0x80 then Text.isAsciiLetter c || c == '_'
  else Text.inRanges NameTable.starting c.toNat

/-- Characters that a name may contain by the older rules, the colon left out. -/
def isListedChar : Bool :=
  if c.toNat < 0x80 then isListedStart c || Text.isAsciiDigit c || c == '-' || c == '.'
  else isListedStart c || Text.inRanges NameTable.following c.toNat

/-- Characters that a name may start with by the newer rules, the colon left out. -/
def isOpenStart : Bool :=
  let n := c.toNat
  Text.isAsciiLetter c || c == '_' || (0xC0 ≤ n && n ≤ 0x2FF && n != 0xD7 && n != 0xF7) ||
    (0x370 ≤ n && n ≤ 0x1FFF && n != 0x37E) || n == 0x200C || n == 0x200D ||
    (0x2070 ≤ n && n ≤ 0x218F) || (0x2C00 ≤ n && n ≤ 0x2FEF) || (0x3001 ≤ n && n ≤ 0xD7FF) ||
    (0xF900 ≤ n && n ≤ 0xFDCF) || (0xFDF0 ≤ n && n ≤ 0xFFFD) || (0x10000 ≤ n && n ≤ 0xEFFFF)

/-- Characters that a name may contain by the newer rules, the colon left out. -/
def isOpenChar : Bool :=
  let n := c.toNat
  isOpenStart c || Text.isAsciiDigit c || c == '-' || c == '.' || n == 0xB7 ||
    (0x300 ≤ n && n ≤ 0x36F) || n == 0x203F || n == 0x2040

/-- Characters that a name may start with for a reader, the colon left out. -/
def isNameStart : XmlReader → Char → Bool
  | .inspecting => isListedStart
  | .editing => isOpenStart

/-- Characters that a name may contain for a reader, the colon left out. -/
def isNameChar : XmlReader → Char → Bool
  | .inspecting => isListedChar
  | .editing => isOpenChar

/-! ## Names -/

/-- Whether a name has no colon but the one behind its qualifier. -/
def isProper (name : XmlName) : Bool := !name.base.toList.contains ':'

variable (reader : XmlReader)

/-- Characters that a name may contain as it is written. -/
def isWrittenChar (c : Char) : Bool := isNameChar reader c || c == ':'

/-- A name as it is written at the front of a text, and the rest. -/
def written? : List Char → Option (List Char × List Char)
  | [] => none
  | c :: rest =>
    if isNameStart reader c || c == ':' then
      some (c :: rest.takeWhile (isWrittenChar reader), rest.dropWhile (isWrittenChar reader))
    else none

/-- Cuts a written name at its first colon. If no name follows that colon, the whole is the base; what
follows a second colon must be able to start a name. -/
def cut? (name : List Char) : Option XmlName :=
  let first := name.takeWhile (· != ':')
  let tail := name.drop (first.length + 1)
  if first.isEmpty || !(tail.head?.any (isNameStart reader)) then some ⟨"", String.ofList name⟩
  else
    match tail.dropWhile (· != ':') with
    | _ :: c :: _ =>
      if isNameStart reader c || c == ':' then some ⟨String.ofList first, String.ofList tail⟩
      else none
    | _ => some ⟨String.ofList first, String.ofList tail⟩

/-- A name with an optional qualifier at the front of a text, and the rest. -/
def name? (text : List Char) : Option (XmlName × List Char) := do
  let (written, rest) ← written? reader text
  let name ← cut? reader written
  if reader == .inspecting && !isProper name then none else some (name, rest)

/-- Whether an attribute value can name an element: a name by the older rules and without a colon, with
white space around it. -/
def isIdentifier (value : List Char) : Bool :=
  match ((value.dropWhile isBlank).reverse.dropWhile isBlank).reverse with
  | [] => false
  | c :: rest => isListedStart c && rest.all isListedChar

end StudioMigration.Xml
