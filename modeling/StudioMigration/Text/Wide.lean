import StudioMigration.Text.Utf8

/-!
# UTF-16, UTF-32 and Latin-1

Reading texts whose units are two or four bytes wide, with the high or the low byte first. A unit that is
half a character alone is read as the replacement character.

In Latin-1 every byte is the code point of one character.
-/

namespace StudioMigration.Text.Wide

open StudioMigration.Text.Utf8 (Bytes)

/-- The order of the bytes of a unit. -/
inductive ByteOrder where
  | lowFirst
  | highFirst
  deriving DecidableEq, Repr

def ByteOrder.suffix : ByteOrder → String
  | .lowFirst => "le"
  | .highFirst => "be"

/-- The number that some bytes make up. -/
def ByteOrder.unit (order : ByteOrder) (bytes : Bytes) : Nat :=
  match order with
  | .highFirst => bytes.foldl (fun n b => 256 * n + b.toNat) 0
  | .lowFirst => bytes.foldr (fun b n => 256 * n + b.toNat) 0

def isHigh (unit : Nat) : Bool := 0xD800 ≤ unit && unit ≤ 0xDBFF

def isLow (unit : Nat) : Bool := 0xDC00 ≤ unit && unit ≤ 0xDFFF

def charOf (unit : Nat) : Char := if isHigh unit || isLow unit then Char.ofNat 0xFFFD else Char.ofNat unit

/-- Reads units of two bytes from an offset on; `half` is the first half of a character that was just
read. -/
def decode16From (order : ByteOrder) : Option Nat → Nat → Bytes → Except Undecodable (List Char)
  | half, _, [] => .ok (half.map charOf).toList
  | _, position, [b] =>
    .error ⟨"utf-16-" ++ order.suffix, b, position, position + 1, "truncated data"⟩
  | half, position, a :: b :: rest => do
    let unit := order.unit [a, b]
    match half with
    | some high =>
      if isLow unit then
        let text ← decode16From order none (position + 2) rest
        return Char.ofNat (0x10000 + (high - 0xD800) * 1024 + (unit - 0xDC00)) :: text
      else if isHigh unit then
        let text ← decode16From order (some unit) (position + 2) rest
        return charOf high :: text
      else
        let text ← decode16From order none (position + 2) rest
        return charOf high :: charOf unit :: text
    | none =>
      if isHigh unit then decode16From order (some unit) (position + 2) rest
      else
        let text ← decode16From order none (position + 2) rest
        return charOf unit :: text

/-- The text of units of two bytes. -/
def decode16 (order : ByteOrder) (bytes : Bytes) : Except Undecodable (List Char) :=
  decode16From order none 0 bytes

/-- Reads units of four bytes from an offset on. -/
def decode32From (order : ByteOrder) : Nat → Bytes → Except Undecodable (List Char)
  | _, [] => .ok []
  | position, a :: b :: c :: d :: rest => do
    let unit := order.unit [a, b, c, d]
    if 0x10FFFF < unit then
      throw ⟨"utf-32-" ++ order.suffix, a, position, position + 4,
        "code point not in range(0x110000)"⟩
    let text ← decode32From order (position + 4) rest
    return charOf unit :: text
  | position, a :: rest =>
    .error ⟨"utf-32-" ++ order.suffix, a, position, position + 1 + rest.length, "truncated data"⟩

/-- The text of units of four bytes. -/
def decode32 (order : ByteOrder) (bytes : Bytes) : Except Undecodable (List Char) :=
  decode32From order 0 bytes

end StudioMigration.Text.Wide

namespace StudioMigration.Text.Latin1

open StudioMigration.Text.Utf8 (Bytes)

def decode (bytes : Bytes) : List Char := bytes.map fun b => Char.ofNat b.toNat

/-- Whether a character has a byte of its own. -/
def fits (c : Char) : Bool := c.toNat < 256

/-- The first run of characters without a byte: its first character, its offset and its length. -/
structure Unencodable where
  char : Char
  start : Nat
  length : Nat
  deriving DecidableEq, Repr

def encode (text : List Char) : Except Unencodable Bytes :=
  match text.dropWhile fits with
  | [] => .ok (text.map fun c => UInt8.ofNat c.toNat)
  | c :: rest =>
    .error ⟨c, (text.takeWhile fits).length, 1 + (rest.takeWhile fun d => !fits d).length⟩

end StudioMigration.Text.Latin1
