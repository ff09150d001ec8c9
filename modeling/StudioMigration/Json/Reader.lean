import StudioMigration.Json.Value
import StudioMigration.Text.Numeral

/-!
# Reading JSON

The reader stops at the first place where the text is not JSON and tells what it expected there, with
line, column and offset. Of two members with one name the later one counts.
-/

namespace StudioMigration.Json

/-- Why a text is not JSON. -/
inductive Flaw where
  | at (reason : String) (text : List Char) (position : Nat)
  | number (flaw : Text.NumeralFlaw)
  /-- Values are nested too deeply; the word is that for the innermost one. -/
  | tooDeep (container : String)
  deriving DecidableEq, Repr

def Flaw.describe : Flaw → String
  | .at reason text position =>
    let ahead := text.take position
    let line := ahead.count '\n' + 1
    let column := (ahead.reverse.takeWhile (· != '\n')).length + 1
    s!"{reason}: line {line} column {column} (char {position})"
  | .number flaw => flaw.describe
  | .tooDeep container =>
    s!"maximum recursion depth exceeded while decoding a JSON {container} from a unicode string"

/-- White space between JSON tokens. -/
def isBlank (c : Char) : Bool := c == ' ' || c == '\t' || c == '\n' || c == '\r'

structure Place where
  rest : List Char
  position : Nat

def Place.skip (place : Place) (n : Nat) : Place := ⟨place.rest.drop n, place.position + n⟩

/-- Goes on behind white space. -/
def Place.skipBlanks (place : Place) : Place :=
  place.skip (place.rest.takeWhile isBlank).length

/-- The character that a letter after a backslash stands for. -/
def escaped? (c : Char) : Option Char :=
  match c with
  | '"' => some '"'
  | '\\' => some '\\'
  | '/' => some '/'
  | 'b' => some (Char.ofNat 8)
  | 'f' => some (Char.ofNat 12)
  | 'n' => some '\n'
  | 'r' => some '\r'
  | 't' => some '\t'
  | _ => none

/-- The character with a code; a lone surrogate is shown as the replacement character. -/
def charOfCode (code : Nat) : Char :=
  if 0xD800 ≤ code && code ≤ 0xDFFF then Char.ofNat 0xFFFD else Char.ofNat code

/-- The second half of a surrogate pair at the front of a text, as its code. -/
def lowSurrogate? : List Char → Option Nat
  | '\\' :: 'u' :: a :: b :: c :: d :: _ :: _ =>
    (Text.hexCode? [a, b, c, d]).filter fun code => 0xDC00 ≤ code && code ≤ 0xDFFF
  | _ => none

/-- Reads the rest of a string. `opened` is the offset of its opening quote. -/
def readString (text : List Char) (opened : Nat) :
    Nat → List Char → Nat → Except Flaw (List Char × Place)
  | _, [], _ => .error (.at "Unterminated string starting at" text opened)
  | skip + 1, _ :: rest, position => readString text opened skip rest (position + 1)
  | 0, c :: rest, position =>
    if c == '"' then .ok ([], ⟨rest, position + 1⟩)
    else if c == '\\' then
      match rest with
      | [] => .error (.at "Unterminated string starting at" text opened)
      | 'u' :: after =>
        if after.length < 5 then .error (.at "Invalid \\uXXXX escape" text (position + 1))
        else
          match Text.hexCode? (after.take 4) with
          | none => .error (.at "Invalid \\uXXXX escape" text (position + 1))
          | some high =>
            match (if 0xD800 ≤ high && high ≤ 0xDBFF then lowSurrogate? (after.drop 4) else none) with
            | some low => do
              let (more, place) ← readString text opened 11 rest (position + 1)
              return (Char.ofNat (0x10000 + (high - 0xD800) * 1024 + (low - 0xDC00)) :: more, place)
            | none => do
              let (more, place) ← readString text opened 5 rest (position + 1)
              return (charOfCode high :: more, place)
      | e :: _ =>
        match escaped? e with
        | none => .error (.at "Invalid \\escape" text position)
        | some character => do
          let (more, place) ← readString text opened 1 rest (position + 1)
          return (character :: more, place)
    else if c.toNat < 0x20 then .error (.at "Invalid control character at" text position)
    else do
      let (more, place) ← readString text opened 0 rest (position + 1)
      return (c :: more, place)

/-- Reads a number: an optional minus sign, a whole part without leading zeros, and optional fraction
and exponent. -/
def readNumber? (rest : List Char) : Option (Except Flaw Json × Nat) :=
  let (sign, unsigned) := if rest.head? == some '-' then (['-'], rest.drop 1) else ([], rest)
  let whole :=
    if unsigned.head? == some '0' then ['0'] else unsigned.takeWhile Text.isAsciiDigit
  if whole.isEmpty then none
  else
    let after := unsigned.drop whole.length
    let fraction :=
      match after with
      | '.' :: digits => digits.takeWhile Text.isAsciiDigit
      | _ => []
    let fractionSize := if fraction.isEmpty then 0 else fraction.length + 1
    let after := after.drop fractionSize
    let (marker, body) :=
      match after with
      | e :: '-' :: digits => if e == 'e' || e == 'E' then (['e', '-'], digits) else ([], [])
      | e :: '+' :: digits => if e == 'e' || e == 'E' then (['e', '+'], digits) else ([], [])
      | e :: digits => if e == 'e' || e == 'E' then (['e'], digits) else ([], [])
      | [] => ([], [])
    let power := body.takeWhile Text.isAsciiDigit
    let powerSize := if power.isEmpty then 0 else marker.length + power.length
    let size := sign.length + whole.length + fractionSize + powerSize
    if fraction.isEmpty && power.isEmpty then
      match Text.readInt (sign ++ whole) with
      | .ok n => some (.ok (.integer n), size)
      | .error flaw => some (.error (.number flaw), size)
    else
      let shift : Int := Text.ofDigits (power.map fun c => c.toNat - 48)
      let exponent := (if marker.contains '-' then -shift else shift) - fraction.length
      let digits := Text.ofDigits ((whole ++ fraction).map fun c => c.toNat - 48)
      some (.ok (.double (.nearest (!sign.isEmpty) digits exponent)), size)

def specialWords : List (String × Double) :=
  [("NaN", .undefined), ("Infinity", .infinite false), ("-Infinity", .infinite true)]

def readSpecial? (rest : List Char) : Option (Double × Nat) :=
  (specialWords.find? fun entry => entry.1.toList.isPrefixOf rest).map fun (word, value) =>
    (value, word.length)

mutual

/-- Reads one value. `fuel` bounds the number of steps, `depth` that of arrays and objects around
values. -/
def readValue (text : List Char) (fuel depth : Nat) (place : Place) : Except Flaw (Json × Place) :=
  match fuel with
  | 0 => .error (.at "Expecting value" text place.position)
  | fuel + 1 =>
    match place.rest with
    | '"' :: rest => do
      let (s, place) ← readString text place.position 0 rest (place.position + 1)
      return (.string (String.ofList s), place)
    | '\x7b' :: _ => do
      if depth == 0 then throw (.tooDeep "object")
      let inside := (place.skip 1).skipBlanks
      if inside.rest.head? == some '\x7d' then return (.object [], inside.skip 1)
      readMembers text fuel (depth - 1) [] inside
    | '[' :: _ => do
      if depth == 0 then throw (.tooDeep "array")
      let inside := (place.skip 1).skipBlanks
      if inside.rest.head? == some ']' then return (.array [], inside.skip 1)
      readItems text fuel (depth - 1) [] inside
    | 'n' :: 'u' :: 'l' :: 'l' :: _ => .ok (.null, place.skip 4)
    | 't' :: 'r' :: 'u' :: 'e' :: _ => .ok (.bool true, place.skip 4)
    | 'f' :: 'a' :: 'l' :: 's' :: 'e' :: _ => .ok (.bool false, place.skip 5)
    | rest =>
      match readNumber? rest with
      | some (.ok value, size) => .ok (value, place.skip size)
      | some (.error flaw, _) => .error flaw
      | none =>
        match readSpecial? rest with
        | some (value, size) => .ok (.double value, place.skip size)
        | none => .error (.at "Expecting value" text place.position)
termination_by (fuel, 0)

def readMembers (text : List Char) (fuel depth : Nat) (members : List (String × Json)) (place : Place) :
    Except Flaw (Json × Place) :=
  match fuel with
  | 0 => .error (.at "Expecting value" text place.position)
  | fuel + 1 =>
    match place.rest with
    | '"' :: rest => do
      let (name, place) ← readString text place.position 0 rest (place.position + 1)
      let place := place.skipBlanks
      if place.rest.head? != some ':' then throw (.at "Expecting ':' delimiter" text place.position)
      let (value, place) ← readValue text fuel depth (place.skip 1).skipBlanks
      let members := putMember (String.ofList name) value members
      let place := place.skipBlanks
      match place.rest.head? with
      | some '\x7d' => return (.object members, place.skip 1)
      | some ',' => readMembers text fuel depth members (place.skip 1).skipBlanks
      | _ => throw (.at "Expecting ',' delimiter" text place.position)
    | _ =>
      .error (.at "Expecting property name enclosed in double quotes" text place.position)
termination_by (fuel, 1)

def readItems (text : List Char) (fuel depth : Nat) (items : List Json) (place : Place) :
    Except Flaw (Json × Place) :=
  match fuel with
  | 0 => .error (.at "Expecting value" text place.position)
  | fuel + 1 => do
    let (value, place) ← readValue text fuel depth place
    let items := items ++ [value]
    let place := place.skipBlanks
    match place.rest.head? with
    | some ']' => return (.array items, place.skip 1)
    | some ',' => readItems text fuel depth items (place.skip 1).skipBlanks
    | _ => throw (.at "Expecting ',' delimiter" text place.position)
termination_by (fuel, 1)

end

/-- How many arrays and objects may stand around a value. -/
def maxDepth : Nat := 988

def readText (text : List Char) : Except Flaw Json := do
  let (value, place) ← readValue text (2 * text.length + 2) maxDepth (Place.skipBlanks ⟨text, 0⟩)
  let place := place.skipBlanks
  if place.rest.isEmpty then return value
  else throw (.at "Extra data" text place.position)

/-- Reads a whole text as one value. A byte order mark in front is refused. -/
def read (text : List Char) : Except Flaw Json :=
  if text.head? == some (Char.ofNat 0xFEFF) then
    .error (.at "Unexpected UTF-8 BOM (decode using utf-8-sig)" text 0)
  else readText text

end StudioMigration.Json
