import StudioMigration.Text.Basic

/-!
# Quoted texts

The form in which messages show a text: in single quotes, or in double quotes if it has single but no
double quotes, with escapes for whatever has no glyph.
-/

namespace StudioMigration.Text

/-- A number in lower-case hexadecimal with at least `width` digits. -/
def hexPadded (width : Nat) (n : Nat) : List Char :=
  let digits := Nat.toDigits 16 n
  List.replicate (width - digits.length) '0' ++ digits

def escapeCode (c : Char) : List Char :=
  let n := c.toNat
  if n < 0x100 then '\\' :: 'x' :: hexPadded 2 n
  else if n < 0x10000 then '\\' :: 'u' :: hexPadded 4 n
  else '\\' :: 'U' :: hexPadded 8 n

def quoteChar (quote c : Char) : List Char :=
  if c == quote || c == '\\' then ['\\', c]
  else if c == '\t' then ['\\', 't']
  else if c == '\n' then ['\\', 'n']
  else if c == '\r' then ['\\', 'r']
  else if isPrintable c then [c]
  else escapeCode c

def apostrophe : Char := Char.ofNat 0x27

def quoteFor (text : List Char) : Char :=
  if text.contains apostrophe && !text.contains '"' then '"' else apostrophe

def quoted (text : List Char) : List Char :=
  let quote := quoteFor text
  quote :: text.flatMap (quoteChar quote) ++ [quote]

def quotedString (s : String) : String := String.ofList (quoted s.toList)

/-- A list of strings in quotes, separated by commas, in square brackets. -/
def quotedList (items : List String) : String :=
  "[" ++ joinStrings ", " (items.map quotedString) ++ "]"

end StudioMigration.Text
