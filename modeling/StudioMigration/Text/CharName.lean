import StudioMigration.Text.CharName.Tables
import StudioMigration.Text.Numeral

/-!
# Characters by their names

Finds the character with a name. Most names are listed in tables; the names of ideographs tell their
codes, and those of Korean syllables spell their sounds.
-/

namespace StudioMigration.Text.CharName

/-! ## Names in tables -/

/-- What a table consists of. -/
inductive Item where
  /-- The code that the next name belongs to. -/
  | start (code : List Char)
  | gap
  | name (mark : Char) (text : List Char)

/-- The items of a table. A slash starts a code, a dot is a gap, and a small letter starts a name. -/
def items (table : List Char) : List Item :=
  (table.foldr (fun c (text, items) =>
    if c == '/' then ([], .start text :: items)
    else if c == '.' then ([], .gap :: items)
    else if 'a' ≤ c && c ≤ 'z' then ([], .name c text :: items)
    else (c :: text, items)) (([], []) : List Char × List Item)).2

/-- The first `n` words of a text, with the blanks after them. -/
def firstWords : Nat → List Char → List Char
  | 0, _ => []
  | _, [] => []
  | n + 1, c :: rest => c :: firstWords (if c == ' ' then n else n + 1) rest

/-- A name up to its last number, and that number raised by one. -/
def countOn (name : List Char) : List Char :=
  let back := name.reverse.dropWhile (!isAsciiDigit ·)
  let digits := (back.takeWhile isAsciiDigit).reverse
  let next := Nat.toDigits 10 (ofDigits (digits.map fun c => c.toNat - 48) + 1)
  (back.dropWhile isAsciiDigit).reverse ++ List.replicate (digits.length - next.length) '0' ++ next

/-- The name of a code, given the name before it. A `y` asks for that name with the code after its last hyphen,
and a `z` for that name counted on; another letter tells by its place in the alphabet how many words are
shared. -/
def nameOf (code : Nat) (previous : List Char) (mark : Char) (text : List Char) : List Char :=
  if mark == 'y' then
    (previous.reverse.dropWhile (· != '-')).reverse ++ (Nat.toDigits 16 code).map Char.toUpper
  else if mark == 'z' then countOn previous
  else firstWords (mark.toNat - 97) previous ++ text

def lookAmong (wanted : List Char) (code : Nat) (previous : List Char) : List Item → Option Nat
  | [] => none
  | .start digits :: rest => lookAmong wanted ((hexCode? digits).getD 0) previous rest
  | .gap :: rest => lookAmong wanted (code + 1) previous rest
  | .name mark text :: rest =>
    let name := nameOf code previous mark text
    if name == wanted then some code else lookAmong wanted (code + 1) name rest

/-- What the tables consist of. They are unpacked when they are needed for the first time. -/
def listed : Thunk (List Item) := Thunk.mk fun _ => items names.unpack

/-! ## Names by rule -/

def after? (beginning : String) (name : List Char) : Option (List Char) :=
  if beginning.toList.isPrefixOf name then some (name.drop beginning.length) else none

/-- The ranges of ideographs whose names tell their codes. -/
def ideographs : List (Nat × Nat) :=
  [(0x3400, 0x4DBF), (0x4E00, 0x9FFF), (0x20000, 0x2A6DF), (0x2A700, 0x2B738), (0x2B740, 0x2B81D),
   (0x2B820, 0x2CEA1), (0x2CEB0, 0x2EBE0), (0x30000, 0x3134A)]

/-- The ideograph with a code of four or five digits. -/
def ideograph? (digits : List Char) : Option Nat :=
  if (digits.length == 4 || digits.length == 5) && !digits.any (fun c => 'a' ≤ c && c ≤ 'f') then
    (hexCode? digits).filter fun n => inRanges ideographs n
  else none

def firstSounds : List String :=
  ["G", "GG", "N", "D", "DD", "R", "M", "B", "BB", "S", "SS", "", "J", "JJ", "C", "K", "T", "P", "H"]

def vowels : List String :=
  ["A", "AE", "YA", "YAE", "EO", "E", "YEO", "YE", "O", "WA", "WAE", "OE", "YO", "U", "WEO", "WE",
   "WI", "YU", "EU", "YI", "I"]

def lastSounds : List String :=
  ["", "G", "GG", "GS", "N", "NJ", "NH", "D", "L", "LG", "LM", "LB", "LS", "LT", "LP", "LH", "M",
   "B", "BS", "S", "SS", "NG", "J", "C", "K", "T", "P", "H"]

/-- The Korean syllable that is spelt by three sounds. -/
def syllable? (spelling : List Char) : Option Nat :=
  firstSounds.zipIdx.findSome? fun (first, i) =>
    (after? first spelling).bind fun rest =>
      vowels.zipIdx.findSome? fun (vowel, j) =>
        (after? vowel rest).bind fun last =>
          (lastSounds.findIdx? fun sound => sound.toList == last).map fun k =>
            0xAC00 + (21 * i + j) * 28 + k

/-! ## All names -/

/-- The code of the character with a name. Names in tables may be written in lower case. -/
def code? (name : List Char) : Option Nat :=
  match after? "HANGUL SYLLABLE " name, after? "CJK UNIFIED IDEOGRAPH-" name with
  | some spelling, _ => syllable? spelling
  | none, some digits => ideograph? digits
  | none, none =>
    let wanted := name.map fun c => if 'a' ≤ c && c ≤ 'z' then Char.ofNat (c.toNat - 32) else c
    lookAmong wanted 0 [] listed.get

end StudioMigration.Text.CharName
