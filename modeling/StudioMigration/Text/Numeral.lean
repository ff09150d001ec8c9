import StudioMigration.Text.Quoted

/-!
# Whole numbers in texts

A numeral may be surrounded by white space, may have a sign, may use the decimal digits of any script
and may have single underscores between digits. Numerals of more than 4300 digits are refused.
Hexadecimal codes, as escapes use them, are plain digits.
-/

namespace StudioMigration.Text

/-- Why a text is not read as a number. -/
inductive NumeralFlaw where
  | malformed (text : List Char)
  | tooLong (digits : Nat)
  deriving DecidableEq, Repr

def maxDigits : Nat := 4300

def NumeralFlaw.describe : NumeralFlaw → String
  | .malformed text =>
    "invalid literal for int() with base 10: " ++ String.ofList ((quoted text).take 200)
  | .tooLong digits =>
    s!"Exceeds the limit ({maxDigits} digits) for integer string conversion: value has {digits} " ++
      "digits; use sys.set_int_max_str_digits() to increase the limit"

/-- The digits at the front of a text, with single underscores between them, and what follows.
`afterDigit` says whether an underscore may stand here. -/
def takeDigits (afterDigit : Bool) : List Char → List Nat × List Char
  | [] => ([], [])
  | c :: rest =>
    match decimalValue? c with
    | some d =>
      let (ds, after) := takeDigits true rest
      (d :: ds, after)
    | none =>
      if afterDigit && c == '_' && rest.head?.any isDecimal then takeDigits false rest
      else ([], c :: rest)

/-- The number with the given decimal digits, the highest first. -/
def ofDigits (digits : List Nat) : Nat := digits.foldl (fun n d => 10 * n + d) 0

def readInt (text : List Char) : Except NumeralFlaw Int :=
  let body := trim text
  let (negative, unsigned) :=
    match body with
    | '-' :: rest => (true, rest)
    | '+' :: rest => (false, rest)
    | _ => (false, body)
  let (digits, after) := takeDigits false unsigned
  if maxDigits < digits.length then .error (.tooLong digits.length)
  else if digits.isEmpty || !after.isEmpty then .error (.malformed text)
  else .ok (if negative then -(ofDigits digits : Int) else ofDigits digits)

def readNat (text : List Char) : Except NumeralFlaw Nat := Int.toNat <$> readInt text

def hexValue? (c : Char) : Option Nat :=
  if '0' ≤ c && c ≤ '9' then some (c.toNat - 48)
  else if 'a' ≤ c && c ≤ 'f' then some (c.toNat - 87)
  else if 'A' ≤ c && c ≤ 'F' then some (c.toNat - 55)
  else none

def hexCode? (digits : List Char) : Option Nat :=
  (digits.mapM hexValue?).map fun values => values.foldl (fun n d => 16 * n + d) 0

end StudioMigration.Text
