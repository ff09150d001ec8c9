import StudioMigration.Text.Quoted

/-!
# UTF-8

Reading and writing UTF-8. A malformed place is described by its longest run of bytes that still
begins a valid character, as the Unicode standard recommends; the strict reader stops there and the
lenient reader leaves the run out.
-/

namespace StudioMigration.Text

/-- A place that cannot be read: the bytes from `start` to before `stop`, the first of which is `byte`. -/
structure Undecodable where
  encoding : String
  byte : UInt8
  start : Nat
  stop : Nat
  reason : String
  deriving DecidableEq, Repr

def Undecodable.describe (place : Undecodable) : String :=
  if place.stop == place.start + 1 then
    s!"'{place.encoding}' codec can't decode byte 0x" ++ String.ofList (hexPadded 2 place.byte.toNat) ++
      s!" in position {place.start}: {place.reason}"
  else
    s!"'{place.encoding}' codec can't decode bytes in position {place.start}-{place.stop - 1}: " ++
      place.reason

end StudioMigration.Text

namespace StudioMigration.Text.Utf8

abbrev Bytes := List UInt8

/-- Why a run of bytes is no character. -/
inductive Flaw where
  | badStart
  | badContinuation
  | cutShort
  deriving DecidableEq, Repr

def Flaw.describe : Flaw → String
  | .badStart => "invalid start byte"
  | .badContinuation => "invalid continuation byte"
  | .cutShort => "unexpected end of data"

/-- What stands at the front of some bytes. -/
inductive Front where
  /-- A character of `size` bytes. -/
  | char (c : Char) (size : Nat)
  /-- A run of `size` bytes that is no character. -/
  | flawed (flaw : Flaw) (size : Nat)
  deriving Repr

def isTail (b : UInt8) : Bool := 0x80 ≤ b && b ≤ 0xBF

/-- The six payload bits of a continuation byte. -/
def tailBits (b : UInt8) : Nat := b.toNat % 64

/-- Whether `second` may follow the leading byte `first`. The bounds rule out long forms, surrogates
and code points beyond the last one. -/
def secondFits (first second : UInt8) : Bool :=
  if first == 0xE0 then 0xA0 ≤ second && second ≤ 0xBF
  else if first == 0xED then 0x80 ≤ second && second ≤ 0x9F
  else if first == 0xF0 then 0x90 ≤ second && second ≤ 0xBF
  else if first == 0xF4 then 0x80 ≤ second && second ≤ 0x8F
  else isTail second

def front (first : UInt8) (rest : Bytes) : Front :=
  if first < 0x80 then .char (Char.ofNat first.toNat) 1
  else if first < 0xC2 then .flawed .badStart 1
  else if first < 0xE0 then
    match rest with
    | [] => .flawed .cutShort 1
    | b :: _ =>
      if isTail b then .char (Char.ofNat (first.toNat % 32 * 64 + tailBits b)) 2
      else .flawed .badContinuation 1
  else if first < 0xF0 then
    match rest with
    | [] => .flawed .cutShort 1
    | [b] => if secondFits first b then .flawed .cutShort 2 else .flawed .badContinuation 1
    | b :: c :: _ =>
      if !secondFits first b then .flawed .badContinuation 1
      else if !isTail c then .flawed .badContinuation 2
      else .char (Char.ofNat (first.toNat % 16 * 4096 + tailBits b * 64 + tailBits c)) 3
  else if first < 0xF5 then
    match rest with
    | [] => .flawed .cutShort 1
    | [b] => if secondFits first b then .flawed .cutShort 2 else .flawed .badContinuation 1
    | [b, c] =>
      if !secondFits first b then .flawed .badContinuation 1
      else if isTail c then .flawed .cutShort 3 else .flawed .badContinuation 2
    | b :: c :: d :: _ =>
      if !secondFits first b then .flawed .badContinuation 1
      else if !isTail c then .flawed .badContinuation 2
      else if !isTail d then .flawed .badContinuation 3
      else
        .char (Char.ofNat
          (first.toNat % 8 * 262144 + tailBits b * 4096 + tailBits c * 64 + tailBits d)) 4
  else .flawed .badStart 1

/-- A malformed place: the bytes from `start` to before `stop`, the first of which is `byte`. -/
structure Malformed where
  byte : UInt8
  start : Nat
  stop : Nat
  flaw : Flaw
  deriving DecidableEq, Repr

/-- The place as one that cannot be read in this encoding. -/
def Malformed.undecodable (place : Malformed) : Undecodable :=
  ⟨"utf-8", place.byte, place.start, place.stop, place.flaw.describe⟩

/-- Strict reading with `skip` bytes of a character still to be passed over, at offset `position`. -/
def decodeFrom (position : Nat) : Nat → Bytes → Except Malformed (List Char)
  | _, [] => .ok []
  | skip + 1, _ :: rest => decodeFrom (position + 1) skip rest
  | 0, b :: rest =>
    match front b rest with
    | .char c size => do
      let text ← decodeFrom (position + 1) (size - 1) rest
      return c :: text
    | .flawed flaw size => .error ⟨b, position, position + size, flaw⟩

def decode (bytes : Bytes) : Except Malformed (List Char) := decodeFrom 0 0 bytes

/-- Lenient reading with `skip` bytes still to be passed over. -/
def decodeLenientFrom : Nat → Bytes → List Char
  | _, [] => []
  | skip + 1, _ :: rest => decodeLenientFrom skip rest
  | 0, b :: rest =>
    match front b rest with
    | .char c size => c :: decodeLenientFrom (size - 1) rest
    | .flawed _ size => decodeLenientFrom (size - 1) rest

/-- The text of some bytes without their malformed runs. -/
def decodeLenient (bytes : Bytes) : List Char := decodeLenientFrom 0 bytes

def encode (text : List Char) : Bytes := text.flatMap String.utf8EncodeChar

def encodeString (s : String) : Bytes := encode s.toList

def byteLength (s : String) : Nat := (encodeString s).length

end StudioMigration.Text.Utf8
