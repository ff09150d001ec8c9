import StudioMigration.Text.CharClass

/-!
# Letter case

Lower case for whole texts, and the two comparisons the scanners need: whether a text is one of a
few upper-case words once its letters are raised, and whether two characters are the same letter up to
case.
-/

namespace StudioMigration.Text

/-! ## Tables

Upper-case and title-case letters above ASCII whose lower-case form is one character, as runs with a
common distance, and the lower-case letters that share an upper-case form. -/

/-- The code points `first`, `first + step`, …, `last` are lowered by adding `shift`. -/
structure CaseRun where
  first : Nat
  last : Nat
  step : Nat
  shift : Int

/-- The runs from a code on, each given by the number of codes that are left out before it, the number of steps in it,
and a number for step and shift: twice the shift, less one and without its sign if it is negative, doubled again and
raised by one if the steps are of two. -/
def caseRuns (code : Nat) : List Nat → List CaseRun
  | gap :: steps :: form :: rest =>
    let first := code + gap
    let step := form % 2 + 1
    let shift : Int := if form / 2 % 2 = 0 then form / 4 else -(form / 4 + 1)
    ⟨first, first + steps * step, step, shift⟩ :: caseRuns (first + steps * step + 1) rest
  | _ => []

/-- The runs in ascending order. They do not overlap. -/
def lowerRuns : List CaseRun :=
  caseRuns 0x80 ([
    0x148D90049D9014FC9004EC9014004DC9000DC9004FC024004EC9114000FC90151009D9035202CF0156A257252357A1C08A6108A6A089,
    0x15100902509250900901400090140009074034004DD9015104CD9114000DD9014020DD9014000DD9015200BD9014AD90049D903400,
    0x14FB1108C014AA210BA060AF009403511CC5404BC004AC0029C9014020CACA90029A9014004DACA907509168890153A06BB0028E01,
    0x108E8F0508E8F0108E8F5C19DD08B5C257D25604F0152B1950A0E08A7B008D7906889224002B014026DB05539090C03C08A09108A0A1,
    0x16B7096B7096B70B6B7097B3396B5096B7096B7296B5096B71957D12FBBF019529908D6FBFA226FBFA2D2BAC0C5008DFDC7992AB9,
    0x1403A089795D0E9066AC889002FB989032EDAF01DC2C006EF106FF1392B006FE106B14969E106B1392C006AD3392C006CC106B109,
    0x1404510951E02FBCA91094024016E9CA9002F9CA9002EFBA9006D9CA9015222BEBA9006AEDB002BFBA901400E08B7D0ECB0D91B2EC9,
    0x1689A9D0169CA9D0028CA9D002DCA9D002FCA9D0069CA9D0151935126BAA9D01404540698CAC01512956B35678A5593A56A59DCF,
    0x14BA614BA6914BA294BA0CA3C09A0CA7C58BA08A1B3DCBD404B5154065106BBCAC0029CA9D006FA0157008AF002A9A9D006CAA9D00,
    0x109A1C0CADF08A7B08EAD08A7B5DFD08C2E2DBB4BA11].flatMap (spelled 110 0))

/-- Lower-case letters that have an upper-case form in common. The groups do not overlap. -/
def kindredLetters : List (List Nat) :=
  [[0x69, 0x131], [0x73, 0x17F], [0xB5, 0x3BC], [0x345, 0x3B9, 0x1FBE], [0x390, 0x1FD3],
   [0x3B0, 0x1FE3], [0x3B2, 0x3D0], [0x3B5, 0x3F5], [0x3B8, 0x3D1], [0x3BA, 0x3F0], [0x3C0, 0x3D6],
   [0x3C1, 0x3F1], [0x3C2, 0x3C3], [0x3C6, 0x3D5], [0x432, 0x1C80], [0x434, 0x1C81],
   [0x43E, 0x1C82], [0x441, 0x1C83], [0x442, 0x1C84, 0x1C85], [0x44A, 0x1C86], [0x463, 0x1C87],
   [0x1C88, 0xA64B], [0x1E61, 0x1E9B], [0xFB05, 0xFB06]]

/-! ## Lower case -/

def lowerChar (c : Char) : Char :=
  if 'A' ≤ c && c ≤ 'Z' then Char.ofNat (c.toNat + 32)
  else if c.toNat < 0x80 then c
  else
    match lowerRuns.find? fun r => r.first ≤ c.toNat && c.toNat ≤ r.last with
    | some r =>
      if (c.toNat - r.first) % r.step == 0 then Char.ofNat (Int.toNat (c.toNat + r.shift)) else c
    | none => c

/-- Characters that case rules look through. -/
def isCaseIgnorable (c : Char) : Bool :=
  if c.toNat < 0x80 then
    c.toNat == 0x27 || c == '.' || c == ':' || c == '^' || c.toNat == 0x60
  else inRanges CharTable.caseIgnorable c.toNat

def isCased (c : Char) : Bool :=
  if c.toNat < 0x80 then isAsciiLetter c else inRanges CharTable.cased c.toNat

/-- Whether the first character that case rules do not look through is a letter with case. -/
def startsCased (cs : List Char) : Bool :=
  match cs.dropWhile isCaseIgnorable with
  | [] => false
  | c :: _ => isCased c

/-- Lower case of the rest of a text, `before` being what precedes it, nearest character first. A
capital sigma that ends a word becomes a final sigma, and the dotted capital I becomes an i with a
combining dot; every other character is lowered on its own. -/
def lowerFrom (before : List Char) : List Char → List Char
  | [] => []
  | c :: rest =>
    let lowered :=
      if c.toNat == 0x3A3 then
        if startsCased before && !startsCased rest then [Char.ofNat 0x3C2] else [Char.ofNat 0x3C3]
      else if c.toNat == 0x130 then ['i', Char.ofNat 0x307]
      else [lowerChar c]
    lowered ++ lowerFrom (c :: before) rest

def lower (cs : List Char) : List Char := lowerFrom [] cs

def lowerString (s : String) : String := String.ofList (lower s.toList)

/-! ## Comparing up to case -/

/-- The ASCII spelling of a character's upper-case form, if that form is ASCII. -/
def upperAscii? (c : Char) : Option (List Char) :=
  if 'a' ≤ c && c ≤ 'z' then some [Char.ofNat (c.toNat - 32)]
  else if c.toNat < 0x80 then some [c]
  else
    match c.toNat with
    | 0xDF => some ['S', 'S']
    | 0x131 => some ['I']
    | 0x17F => some ['S']
    | 0xFB00 => some ['F', 'F']
    | 0xFB01 => some ['F', 'I']
    | 0xFB02 => some ['F', 'L']
    | 0xFB03 => some ['F', 'F', 'I']
    | 0xFB04 => some ['F', 'F', 'L']
    | 0xFB05 => some ['S', 'T']
    | 0xFB06 => some ['S', 'T']
    | _ => none

/-- Whether the upper-case form of a text is the given ASCII word. -/
def upperIs (word : String) (text : String) : Bool :=
  (text.toList.mapM upperAscii?).any fun parts => parts.flatten == word.toList

/-- The lower-case form of a single character as comparisons take it, where the dotted capital I is an
i like any other. -/
def foldChar (c : Char) : Char := if c.toNat == 0x130 then 'i' else lowerChar c

/-- The lower-case letters with the same upper-case form as a lower-case letter, itself included. -/
def kin (n : Nat) : List Nat := (kindredLetters.find? (·.contains n)).getD [n]

/-- Whether `c` is the letter `letter` in some case. Besides the two plain cases an `i` may be
dotted or dotless, a `k` may be the kelvin sign and an `s` may be long. -/
def sameLetter (letter c : Char) : Bool := (kin (foldChar letter).toNat).contains (foldChar c).toNat

/-- Whether some code point from `low` to `high` has the lower-case form `n`. -/
def someFoldsTo (low high n : Nat) : Bool :=
  let within (m : Nat) : Bool := low ≤ m && m ≤ high
  (within n && (foldChar (Char.ofNat n)).toNat == (Char.ofNat n).toNat) ||
    (0x61 ≤ n && n ≤ 0x7A && within (n - 32)) || (n == 0x69 && within 0x130) ||
    lowerRuns.any fun r =>
      let m := Int.toNat (n - r.shift)
      r.first ≤ m && m ≤ r.last && (m - r.first) % r.step == 0 && within m

end StudioMigration.Text
