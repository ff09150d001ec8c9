/-!
# Double-precision numbers

A number of a JSON text that is not whole is kept as the nearest number with 53 significant bits. It is
shown with the fewest decimal digits that lead back to it.

* `Double.nearest` is the double nearest to a decimal number.
* `Double.shortest` is the shortest decimal number to which a double is nearest.
* `Double.text` writes a double.
-/

namespace StudioMigration

/-- A number with 53 significant bits, or what exceeds all of them, or no number at all. -/
inductive Double where
  /-- The number `significand · 2 ^ exponent`, or its negative. -/
  | finite (negative : Bool) (significand : Nat) (exponent : Int)
  | infinite (negative : Bool)
  | undefined
  deriving DecidableEq, Repr

namespace Double

/-! ## From decimal numbers -/

/-- The fraction `n · base ^ power`, as numerator and denominator. -/
def fraction (n base : Nat) (power : Int) : Nat × Nat :=
  if 0 ≤ power then (n * Nat.pow base power.toNat, 1) else (n, Nat.pow base power.natAbs)

/-- The whole number nearest to a quotient; a half goes to the even neighbour. -/
def roundDiv (num den : Nat) : Nat :=
  let quotient := num / den
  let twice := 2 * (num % den)
  if twice < den || (twice == den && quotient % 2 == 0) then quotient else quotient + 1

/-- Whether a fraction is at least `base ^ power`. -/
def reaches (num den base : Nat) (power : Int) : Bool :=
  let (up, down) := fraction 1 base power
  up * den ≤ num * down

def digitCount (n : Nat) : Nat := (Nat.toDigits 10 n).length

/-- The smallest power of two that exceeds every significand. -/
def significandEnd : Nat := 0x20000000000000

def leastExponent : Int := -1074

def greatestExponent : Int := 971

/-- The double nearest to `digits · 10 ^ power`; of two that are equally near, the one with an even
significand. Powers far outside the range of doubles are not computed. -/
def nearest (negative : Bool) (digits : Nat) (power : Int) : Double :=
  let size := digitCount digits + power
  if digits == 0 || size < -330 then .finite negative 0 0
  else if 310 < size then .infinite negative
  else
    let (num, den) := fraction digits 10 power
    let guess : Int := (Nat.log2 num : Int) - Nat.log2 den
    let order := if reaches num den 2 guess then guess else guess - 1
    let exponent := max (order - 52) leastExponent
    let (up, down) := fraction 1 2 exponent
    let significand := roundDiv (num * down) (den * up)
    let (significand, exponent) :=
      if significand == significandEnd then (significandEnd / 2, exponent + 1)
      else (significand, exponent)
    if greatestExponent < exponent then .infinite negative
    else .finite negative significand exponent

/-! ## To decimal numbers -/

/-- The decimal number on the grid of multiples of `10 ^ power` that is nearest to
`significand · 2 ^ exponent` among those whose nearest double is this one. Only the two neighbours on the
grid need to be looked at; of two that are equally near, the even one counts. -/
def onGrid? (significand : Nat) (exponent power : Int) : Option Nat :=
  let (up, down) := fraction 1 2 (exponent - 2)
  let (tenUp, tenDown) := fraction 1 10 power
  let quarter := up * tenDown
  let value := 4 * significand * quarter
  let below := if significand == significandEnd / 2 && leastExponent < exponent then 1 else 2
  let low := (4 * significand - below) * quarter
  let high := (4 * significand + 2) * quarter
  let unit := tenUp * down
  let leadsBack (n : Nat) : Bool :=
    if significand % 2 == 0 then low ≤ n * unit && n * unit ≤ high
    else low < n * unit && n * unit < high
  let floor := value / unit
  match leadsBack floor, leadsBack (floor + 1) with
  | true, true => some (roundDiv value unit)
  | true, false => some floor
  | false, true => some (floor + 1)
  | false, false => none

/-- The shortest decimal number `n · 10 ^ power` to which a positive double is nearest. Seventeen digits
always suffice. -/
def shortest (significand : Nat) (exponent : Int) : Nat × Int :=
  let (num, den) := fraction significand 2 exponent
  let guess : Int := (digitCount num : Int) - digitCount den
  let order := if reaches num den 10 guess then guess + 1 else guess
  let found := (List.range 17).findSome? fun count =>
    let power := order - (count + 1 : Nat)
    (onGrid? significand exponent power).map fun n => (n, power)
  found.getD (0, 0)

/-! ## Text -/

def withoutFinalZeros (digits : List Char) : List Char := (digits.reverse.dropWhile (· == '0')).reverse

/-- The number `0.digits · 10 ^ point` as text. With up to sixteen digits before the point or up to three
zeros behind it the number is written in full, else with an exponent of at least two digits. -/
def pointText (digits : List Char) (point : Int) : List Char :=
  if -4 < point && point ≤ 16 then
    if point ≤ 0 then '0' :: '.' :: (List.replicate point.natAbs '0' ++ digits)
    else
      let whole := digits.take point.toNat
      let places := digits.drop point.toNat
      whole ++ List.replicate (point.toNat - whole.length) '0' ++ '.' ::
        (if places.isEmpty then ['0'] else places)
  else
    let power := point - 1
    let places := digits.drop 1
    let count := (toString power.natAbs).toList
    digits.take 1 ++ (if places.isEmpty then [] else '.' :: places) ++
      'e' :: (if power < 0 then '-' else '+') :: (List.replicate (2 - count.length) '0' ++ count)

def text : Double → String
  | .finite negative significand exponent =>
    let sign := if negative then "-" else ""
    if significand == 0 then sign ++ "0.0"
    else
      let (n, power) := shortest significand exponent
      let digits := (toString n).toList
      sign ++ String.ofList (pointText (withoutFinalZeros digits) (digits.length + power))
  | .infinite negative => if negative then "-inf" else "inf"
  | .undefined => "nan"

end Double

end StudioMigration
