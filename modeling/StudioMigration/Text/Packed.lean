/-!
# Packed texts

Long tables are kept packed. A packed text is a number, written in digits of its own: it says bit by bit which of two
parts of a range to go on with, and the sizes of the two parts are the chances of the bit. Each context of a bit, such
as the characters in front of it, the word so far, or the words that stood in its place in the lines before, has a
chance to tell from what it has counted so far. Their logarithms are added up with weights that follow what comes; a
negative number is kept as its complement to `2 ^ 32`.
-/

namespace StudioMigration.Text

/-- A packed text and the number of its characters. -/
structure Packed where
  length : Nat
  digits : String

namespace Packed

/-- The characters that can be packed, by their numbers. -/
def alphabet : Array Char := " -./0123456789ABCDEFGHIJKLMNOPQRSTUVWXYZabcdefghijlyz".toList.toArray

def base : Nat := 87

/-- The digits are the signs of ASCII but for seven that mean something in program texts. -/
def digitOf (c : Char) : Nat :=
  c.toNat - 33 - ("\"'-\\`\x7b\x7d".toList.filter (· < c)).length

/-! ## Chances -/

/-- Chances in 4096 for the odds `e ^ (-8)`, `e ^ (-7.5)` and so on up to `e ^ 8`. -/
def steps : Array UInt32 :=
  #[1, 2, 3, 6, 10, 16, 27, 45, 73, 120, 194, 310, 488, 747, 1101, 1546, 2047, 2549, 2994, 3348, 3607, 3785, 3901, 3975,
    4022, 4050, 4068, 4079, 4085, 4089, 4092, 4093, 4094]

/-- The chance for odds, given their logarithm in parts of 256. -/
def chanceOf (n : UInt32) : UInt32 :=
  let n := n + 2048
  (steps.getD (n / 128).toNat 0 * (128 - n % 128) + steps.getD (n / 128 + 1).toNat 0 * (n % 128) + 64) / 128

/-- The logarithms of odds, by chances. -/
def logarithms : Array UInt32 :=
  (List.range 4095).foldl (fun found n =>
    let n := n.toUInt32 - 2047
    found ++ Array.replicate ((chanceOf n).toNat + 1 - found.size) n) #[]

/-! ## What is learnt -/

/-- What was learnt from earlier bits: how often a bit was 0 and, behind it, how often it was 1 in a context, with 64 for
a last one that was 1; the chances after such counts; and the weights of the contexts. -/
structure Learnt where
  counts : ByteArray
  chances : Array UInt32
  weights : Array UInt32

def zeros (n : Nat) : ByteArray := (List.range n).foldl (fun counts _ => counts ++ counts) ⟨#[0]⟩

def Learnt.nothing : Learnt where
  counts := zeros 27
  chances := Array.ofFn fun n : Fin (13 * 8192) =>
    (65536 * (10 * (n.val % 64) + 4) / (10 * (n.val / 128 % 64 + n.val % 64) + 8)).toUInt32
  weights := Array.replicate (13 * 12288) 2000 ++ Array.replicate 512 5461

/-- Spreads numbers over all numbers. -/
def spread (n : UInt32) : UInt32 :=
  let n := n * 0x9E3779B1
  let n := (n ^^^ (n >>> 15)) * 0x85EBCA6B
  n ^^^ (n >>> 13)

/-- The counts of a context stand together for three bits of a character; `upper` tells the three before them. -/
def placeOf (upper context : UInt32) : Nat := 16 * (spread (context + upper) >>> 9).toNat

def stateAt (counts : ByteArray) (place : Nat) : Nat :=
  128 * (counts.get! place).toNat + (counts.get! (place + 1)).toNat

/-- Counts a bit at a place, and gives less weight to what did not come. -/
def count (bit : Bool) (place : Nat) (counts : ByteArray) : ByteArray :=
  let more (n : UInt8) : UInt8 := if n < 20 then n + 1 else n
  let less (n : UInt8) : UInt8 := if 2 < n then n / 2 + 1 else n
  let off := counts.get! place
  let on := counts.get! (place + 1) % 64
  if bit then (counts.set! place (less off)).set! (place + 1) (more on + 64)
  else (counts.set! place (more off)).set! (place + 1) (less on)

/-- What the contexts tell about a bit, `front` being the bits of its three in front of it. -/
def told (counts : ByteArray) (chances : Array UInt32) (front : Nat) : Nat → List Nat → List UInt32
  | _, [] => []
  | first, place :: places =>
    let state := stateAt counts (place + 2 * front)
    let logarithm := if state == 0 then 0 else logarithms.getD (chances.getD (first + state) 0 / 16).toNat 0
    logarithm :: told counts chances front (first + 8192) places

def learn (bit : Bool) (front : Nat) : Nat → List Nat → ByteArray → Array UInt32 → ByteArray × Array UInt32
  | _, [], counts, chances => (counts, chances)
  | first, place :: places, counts, chances =>
    let place := place + 2 * front
    let chances := chances.modify (first + stateAt counts place) fun chance =>
      if bit then chance + (65536 - chance) / 64 else chance - chance / 64
    learn bit front (first + 8192) places (count bit place counts) chances

/-- Adds up with the weights from a place on. -/
def weigh (weights : Array UInt32) : Nat → List UInt32 → UInt32 → UInt32
  | _, [], sum => (max 0x1F801 (min 0x207FF ((sum + 0x80000000) >>> 14)) : UInt32) - 0x20000
  | place, n :: rest, sum => weigh weights (place + 1) rest (sum + weights.getD place 0 * n)

/-- Follows what came, which was missed by `miss`. -/
def follow (miss : UInt32) : Nat → List UInt32 → Array UInt32 → Array UInt32
  | _, [], weights => weights
  | place, n :: rest, weights =>
    follow miss (place + 1) rest (weights.modify place (· + ((n * miss + 0x80002000) >>> 14) - 0x20000))

/-! ## Reading bits -/

/-- Where an unpacker stands: the range, the number within it, and the digits that follow. -/
structure Reading where
  range : Nat
  number : Nat
  digits : List Char

namespace Reading

/-- Takes more digits while the range is small. -/
def widen : Nat → Reading → Reading
  | 0, reading => reading
  | fuel + 1, ⟨range, number, digits⟩ =>
    if range < Nat.pow base 3 then
      widen fuel ⟨range * base, number * base + (digits.head?.elim 0 digitOf), digits.tail⟩
    else ⟨range, number, digits⟩

def start (digits : List Char) : Reading :=
  ⟨Nat.pow base 5, (digits.take 5).foldl (fun number c => number * base + digitOf c) 0, digits.drop 5⟩

/-- The next bit, if the chance of 1 is `chance` in 4096. -/
def bit (chance : Nat) (reading : Reading) : Bool × Reading :=
  let split := reading.range * (4096 - chance) / 4096
  if reading.number < split then (false, widen 4 { reading with range := split })
  else (true, widen 4 { reading with range := reading.range - split, number := reading.number - split })

end Reading

/-! ## Unpacking -/

/-- What was unpacked so far: the last six numbers, the word, its length and its place in the line, the words by their
places, those before them, what started the line, and the characters, the last one first. -/
structure Unpacked where
  recent : List UInt32 := [0, 0, 0, 0, 0, 0]
  word : UInt32 := 0
  length : Nat := 0
  place : Nat := 2
  words : Array UInt32 := Array.replicate 40 0
  older : Array UInt32 := Array.replicate 40 0
  mark : UInt32 := 0
  text : List Char := []

namespace Unpacked

/-- The contexts of the next character. -/
def contexts : Unpacked → List UInt32
  | ⟨recent, word, length, place, words, older, mark, _⟩ =>
    let last := (recent.foldl (fun (hash, hashes) n =>
      let hash := (hash + n) * 0x9E3779B1
      (hash, hash :: hashes)) ((0, []) : UInt32 × List UInt32)).2.reverse
    let both (m n : UInt32) : UInt32 := spread (m + spread n)
    let above := both word (words.getD place 0)
    (0 :: last.take 4 ++ last.drop 5 ++ [word, both word (words.getD (place - 1) 0), above,
      both above (older.getD place 0), both (both (place.toUInt32 - 2) mark) length.toUInt32,
      both word (words.getD (place - 2) 0), both (last.getD 1 0) (words.getD 2 0)]).zipIdx.map fun (context, i) =>
        spread (context + i.toUInt32)

/-- Adds a character, by its number. Small letters and signs end a word, and start a line: a small letter tells by its
place in the alphabet which word of it comes next. -/
def add (number : UInt32) : Unpacked → Unpacked
  | ⟨recent, word, length, place, words, older, mark, text⟩ =>
    let c := alphabet.getD number.toNat ' '
    let recent := (number + 1) :: recent.take 5
    if c.isUpper || c.isDigit || c == '-' then
      ⟨recent, (word + number + 1) * 0x9E3779B1, length + 1, place, words, older, mark, c :: text⟩
    else
      let older := older.setIfInBounds place (words.getD place 0)
      let words := words.setIfInBounds place word
      let next := if c == ' ' then place + 1 else if 'a' ≤ c && c ≤ 'x' then c.toNat - 95 else 2
      ⟨recent, 0, 0, next, words, older, if c == ' ' then mark else number, c :: text⟩

end Unpacked

/-- Reads and learns three bits of a character. There are three sets of weights: by the bits in front, by the character in
front and how many contexts tell something, and by the place in the line. -/
def threeBits (places : List Nat) (upper last place : Nat) : Nat → Nat → Learnt → Reading → Nat × Learnt × Reading
  | 0, front, learnt, reading => (front, learnt, reading)
  | left + 1, front, ⟨counts, chances, weights⟩, reading =>
    let inputs := told counts chances front 0 places
    let known := inputs.countP (· != 0)
    let sets := [8 * upper + front, 4096 + 64 * known + last, 8192 + place].map (13 * ·)
    let sums := sets.map fun set => weigh weights set inputs 0
    let top := 13 * 12288 + 4 * (8 * upper + front)
    let chance := chanceOf (weigh weights top sums 0)
    let (bit, reading) := reading.bit chance.toNat
    let came : UInt32 := if bit then 4096 else 0
    let weights := (sets.zip sums).foldl (fun weights (set, sum) =>
      follow (5 * (came - chanceOf sum)) set inputs weights) weights
    let (counts, chances) := learn bit front 0 places counts chances
    threeBits places upper last place left (2 * front + bit.toNat)
      ⟨counts, chances, follow (came - chance) top sums weights⟩ reading

def characters : Nat → Unpacked → Learnt → Reading → List Char
  | 0, unpacked, _, _ => unpacked.text.reverse
  | left + 1, unpacked, learnt, reading =>
    let contexts := unpacked.contexts
    let last := (unpacked.recent.headD 0).toNat
    let place := 16 * min (unpacked.place - 2) 15 + min unpacked.length 15
    let (upper, learnt, reading) := threeBits (contexts.map (placeOf 0)) 0 last place 3 1 learnt reading
    let (lower, learnt, reading) :=
      threeBits (contexts.map (placeOf upper.toUInt32)) upper last place 3 1 learnt reading
    characters left (unpacked.add (8 * upper + lower - 72).toUInt32) learnt reading

def unpack (packed : Packed) : List Char :=
  characters packed.length {} .nothing (Reading.start (packed.digits.toList.filter (· != '\n')))

end Packed

end StudioMigration.Text
