import StudioMigration.Text.Numeral

/-!
# Escapes in written patterns and templates

Patterns and replacement templates are written with the same escapes. A text is first cut into tokens,
so that a backslash always stands together with the character after it; what belongs to an escape
beyond that character is looked up in the tokens that follow.
-/

namespace StudioMigration

/-- Why a written pattern or template cannot be read: what is wrong, the text, and the place in it. -/
structure WrittenFlaw where
  reason : String
  text : List Char
  position : Nat
  deriving DecidableEq, Repr

/-- The wording of a flaw. In a text of several lines it also tells line and column. -/
def WrittenFlaw.describe (flaw : WrittenFlaw) : String :=
  let plain := s!"{flaw.reason} at position {flaw.position}"
  if flaw.text.contains '\n' then
    let ahead := flaw.text.take flaw.position
    let line := ahead.count '\n' + 1
    let column :=
      if ahead.contains '\n' then (ahead.reverse.takeWhile (· != '\n')).length + 1
      else flaw.position + 1
    plain ++ s!" (line {line}, column {column})"
  else plain

namespace Escape

/-! ## Tokens -/

/-- The tokens of a text: single characters, escapes of two characters, and a lone backslash at the
end. -/
def tokens : List Char → List (List Char)
  | [] => []
  | '\\' :: c :: rest => ['\\', c] :: tokens rest
  | c :: rest => [c] :: tokens rest

/-- The flaw of a backslash at the very end, if it is the next token. -/
def loneBackslash? (text : List Char) : List (List Char) → Option WrittenFlaw
  | [['\\']] => some ⟨"bad escape (end of pattern)", text, text.length - 1⟩
  | _ => none

/-- The characters of a kind at the front of some tokens, at most `limit` of them. -/
def leading (accepts : Char → Bool) : Nat → List (List Char) → List Char
  | limit + 1, [c] :: rest => if accepts c then c :: leading accepts limit rest else []
  | _, _ => []

/-- The name at the front of some tokens that a character ends, and how many tokens it takes with that
character; `position` is the place of the first token, and `what` says what is named. -/
def nameBefore (text : List Char) (stop : Char) (what : String) (position : Nat)
    (rest : List (List Char)) : Except WrittenFlaw (List Char × Nat) :=
  let parts := rest.takeWhile (· != [stop])
  let name := parts.flatten
  if name.isEmpty then .error ⟨"missing " ++ what, text, position⟩
  else if parts.length == rest.length then
    .error ⟨"missing " ++ String.ofList [stop] ++ ", unterminated name", text, position⟩
  else .ok (name, parts.length + 1)

/-! ## Characters by their codes -/

variable (c : Char)

/-- The control character that a letter after a backslash stands for. -/
def control? : Option Char :=
  match c with
  | 'a' => some (Char.ofNat 7)
  | 'b' => some (Char.ofNat 8)
  | 'f' => some (Char.ofNat 12)
  | 'n' => some '\n'
  | 'r' => some '\r'
  | 't' => some '\t'
  | 'v' => some (Char.ofNat 11)
  | '\\' => some '\\'
  | _ => none

def isOctal : Bool := '0' ≤ c && c ≤ '7'

def digitValue : Nat := c.toNat - 48

/-- The octal digits at the front of some tokens, at most `limit` of them. -/
def leadingOctal (limit : Nat) (rest : List (List Char)) : List Char := leading isOctal limit rest

def octalCode (digits : List Char) : Nat := digits.foldl (fun n c => 8 * n + digitValue c) 0

/-- How many hexadecimal digits have to follow a letter after a backslash. -/
def hexWidth? : Option Nat :=
  match c with
  | 'x' => some 2
  | 'u' => some 4
  | 'U' => some 8
  | _ => none

/-- The number of a group reference that starts with the digit `c`: a second digit belongs to it. -/
def groupNumber (rest : List (List Char)) : Nat :=
  match leading Text.isAsciiDigit 1 rest with
  | [d] => digitValue c * 10 + digitValue d
  | _ => digitValue c

/-- How many tokens after a backslash and the digit `c` belong to it: two for an octal code, one for a
group of two digits. -/
def digitTokens (rest : List (List Char)) : Nat :=
  if isOctal c && (leadingOctal 2 rest).length == 2 then 2
  else (leading Text.isAsciiDigit 1 rest).length

/-- What is wrong with an octal code of three digits that is too large. -/
def octalReason (digits : List Char) : String :=
  "octal escape value " ++ String.ofList ('\\' :: digits) ++ " outside of range 0-0o377"

end Escape

end StudioMigration
