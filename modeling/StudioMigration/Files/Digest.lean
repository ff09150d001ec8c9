import StudioMigration.Text.Utf8

/-!
# MD5 digests

The MD5 digest of a byte sequence, shown in lower-case hexadecimal digits.
-/

namespace StudioMigration.Digest

open StudioMigration.Text.Utf8 (Bytes)

/-- The running value of a digest. -/
structure State where
  a : UInt32
  b : UInt32
  c : UInt32
  d : UInt32
  deriving DecidableEq, Repr

def initial : State := ⟨0x67452301, 0xefcdab89, 0x98badcfe, 0x10325476⟩

def constants : List UInt32 :=
  [0xd76aa478, 0xe8c7b756, 0x242070db, 0xc1bdceee,
   0xf57c0faf, 0x4787c62a, 0xa8304613, 0xfd469501,
   0x698098d8, 0x8b44f7af, 0xffff5bb1, 0x895cd7be,
   0x6b901122, 0xfd987193, 0xa679438e, 0x49b40821,
   0xf61e2562, 0xc040b340, 0x265e5a51, 0xe9b6c7aa,
   0xd62f105d, 0x02441453, 0xd8a1e681, 0xe7d3fbc8,
   0x21e1cde6, 0xc33707d6, 0xf4d50d87, 0x455a14ed,
   0xa9e3e905, 0xfcefa3f8, 0x676f02d9, 0x8d2a4c8a,
   0xfffa3942, 0x8771f681, 0x6d9d6122, 0xfde5380c,
   0xa4beea44, 0x4bdecfa9, 0xf6bb4b60, 0xbebfbc70,
   0x289b7ec6, 0xeaa127fa, 0xd4ef3085, 0x04881d05,
   0xd9d4d039, 0xe6db99e5, 0x1fa27cf8, 0xc4ac5665,
   0xf4292244, 0x432aff97, 0xab9423a7, 0xfc93a039,
   0x655b59c3, 0x8f0ccc92, 0xffeff47d, 0x85845dd1,
   0x6fa87e4f, 0xfe2ce6e0, 0xa3014314, 0x4e0811a1,
   0xf7537e82, 0xbd3af235, 0x2ad7d2bb, 0xeb86d391]

/-- The rotations of the four steps that make up a round, round by round. -/
def rotations : List (List UInt32) :=
  [[7, 12, 17, 22], [5, 9, 14, 20], [4, 11, 16, 23], [6, 10, 15, 21]]

def rotate (word amount : UInt32) : UInt32 := (word <<< amount) ||| (word >>> (32 - amount))

/-- A word from four bytes, the lowest first. -/
def wordOf (bytes : Bytes) : UInt32 := bytes.foldr (fun byte word => (word <<< 8) ||| byte.toUInt32) 0

/-- Cuts a list into pieces of `size` elements, at most `count` of them. -/
def chunks {α : Type} (size : Nat) : Nat → List α → List (List α)
  | 0, _ => []
  | count + 1, items =>
    if items.isEmpty then [] else items.take size :: chunks size count (items.drop size)

def bytesOf (word : UInt32) : Bytes :=
  [word.toUInt8, (word >>> 8).toUInt8, (word >>> 16).toUInt8, (word >>> 24).toUInt8]

/-- The bytes that are digested: a one bit, zeros and the length in bits are put behind. -/
def padded (bytes : Bytes) : Bytes :=
  let zeros := (119 - bytes.length % 64) % 64
  let bits := bytes.length * 8
  bytes ++ [0x80] ++ List.replicate zeros 0 ++ bytesOf (UInt32.ofNat bits) ++
    bytesOf (UInt32.ofNat (bits / 0x100000000))

def step (block : List UInt32) (state : State) (entry : UInt32 × Nat) : State :=
  let (constant, i) := entry
  let (mixed, index) :=
    match i / 16 with
    | 0 => ((state.b &&& state.c) ||| (~~~state.b &&& state.d), i)
    | 1 => ((state.d &&& state.b) ||| (~~~state.d &&& state.c), (5 * i + 1) % 16)
    | 2 => (state.b ^^^ state.c ^^^ state.d, (3 * i + 5) % 16)
    | _ => (state.c ^^^ (state.b ||| ~~~state.d), (7 * i) % 16)
  let sum := state.a + mixed + constant + block.getD index 0
  let amount := (rotations.getD (i / 16) []).getD (i % 4) 0
  ⟨state.d, state.b + rotate sum amount, state.b, state.c⟩

def absorb (state : State) (block : List UInt32) : State :=
  let mixed := constants.zipIdx.foldl (step block) state
  ⟨state.a + mixed.a, state.b + mixed.b, state.c + mixed.c, state.d + mixed.d⟩

def digest (bytes : Bytes) : Bytes :=
  let message := padded bytes
  let words := (chunks 4 message.length message).map wordOf
  let state := (chunks 16 words.length words).foldl absorb initial
  bytesOf state.a ++ bytesOf state.b ++ bytesOf state.c ++ bytesOf state.d

def hex (bytes : Bytes) : String :=
  String.ofList ((digest bytes).flatMap fun byte => Text.hexPadded 2 byte.toNat)

end StudioMigration.Digest
