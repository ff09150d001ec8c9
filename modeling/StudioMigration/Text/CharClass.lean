import StudioMigration.Text.CharTable

/-!
# Character classes

The classes that the scanners of this library rest on: white space, word characters, digits and
printable characters. All of them cover the whole character set; below U+0080 they are given by a
formula, above it by `CharTable`.
-/

namespace StudioMigration.Text

/-- Whether `n` lies in one of the given ascending ranges. -/
def inRanges : List (Nat × Nat) → Nat → Bool
  | [], _ => false
  | (low, high) :: rest, n => if n < low then false else n ≤ high || inRanges rest n

variable (c : Char)

/-- White space: blanks, line and page breaks, the four information separators and the typographic
spaces. -/
def isSpace : Bool :=
  let n := c.toNat
  (9 ≤ n && n ≤ 13) || (0x1C ≤ n && n ≤ 0x20) || n == 0x85 || n == 0xA0 || n == 0x1680 ||
    (0x2000 ≤ n && n ≤ 0x200A) || n == 0x2028 || n == 0x2029 || n == 0x202F || n == 0x205F ||
    n == 0x3000

def isAsciiLetter : Bool :=
  ('a' ≤ c && c ≤ 'z') || ('A' ≤ c && c ≤ 'Z')

def isAsciiDigit : Bool := '0' ≤ c && c ≤ '9'

def isAsciiWord : Bool := isAsciiLetter c || isAsciiDigit c || c == '_'

/-- Word characters: letters, digits, other numbers and the underscore. -/
def isWord : Bool :=
  if c.toNat < 0x80 then isAsciiWord c else inRanges CharTable.alphanumeric c.toNat

/-- The place value of a decimal digit of any script. -/
def decimalValue? : Option Nat :=
  let n := c.toNat
  if isAsciiDigit c then some (n - 48)
  else if n < 0x80 then none
  else (CharTable.decimal.find? fun r => r.1 ≤ n && n ≤ r.2).map fun r => (n - r.1) % 10

def isDecimal : Bool := (decimalValue? c).isSome

/-- Decimal digits, and digits without a place value such as superscripts. -/
def isDigit : Bool :=
  isDecimal c || (0x80 ≤ c.toNat && inRanges CharTable.otherDigit c.toNat)

/-- Characters that are shown as themselves. -/
def isPrintable : Bool :=
  let n := c.toNat
  if n < 0x80 then 0x20 ≤ n && n ≤ 0x7E else !inRanges CharTable.unprintable n

theorem isWord_of_isAsciiWord {c : Char} (h : isAsciiWord c = true) : isWord c = true := by
  unfold isWord
  split
  · exact h
  · rename_i hn
    exfalso
    apply hn
    have val : c.toNat = c.val.toNat := rfl
    simp only [isAsciiWord, isAsciiLetter, isAsciiDigit, Bool.or_eq_true, Bool.and_eq_true,
      decide_eq_true_eq, beq_iff_eq, Char.le_def, UInt32.le_iff_toNat_le] at h
    rcases h with ((h | h) | h) | h
    · have := h.2; simp at this; omega
    · have := h.2; simp at this; omega
    · have := h.2; simp at this; omega
    · subst h; decide

end StudioMigration.Text
