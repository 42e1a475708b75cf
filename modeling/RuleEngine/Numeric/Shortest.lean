import RuleEngine.Numeric.Binary
import RuleEngine.Numeric.Decimal

/-!
# The shortest decimal that reads back

Every real number within half a step of a float rounds to it. The decimal that
stands for a float is taken from that interval: the one with the fewest digits,
of those the nearest, and of two as near the larger.
-/

namespace RuleEngine

namespace Shortest

/-- Four times the reals that round to a magnitude, as numerators over a common
    denominator: the ends of the interval and the value between them. -/
structure Interval where
  low : Nat
  value : Nat
  high : Nat
  denominator : Nat
  /-- Whether the ends themselves round to the float. -/
  closed : Bool

/-- The interval of a magnitude. Below a power of two the floats are twice as
    dense, so there the lower end is half as far away. -/
def Interval.of (b : Binary) : Interval :=
  let narrow := b.significand = Binary.hiddenBit ∧ b.exponent > -1074
  let scale := Nat.pow 2 b.exponent.toNat
  { low := (4 * b.significand - if narrow then 1 else 2) * scale
    value := 4 * b.significand * scale
    high := (4 * b.significand + 2) * scale
    denominator := 4 * Nat.pow 2 (-b.exponent).toNat
    closed := b.significand % 2 = 0 }

/-- Whether `digits * 10 ^ exponent` rounds to the float. -/
def Interval.contains (i : Interval) (d : Decimal) : Bool :=
  let scaled := d.digits * Nat.pow 10 d.exponent.toNat * i.denominator
  let unit := Nat.pow 10 (-d.exponent).toNat
  if i.closed then i.low * unit ≤ scaled && scaled ≤ i.high * unit
  else i.low * unit < scaled && scaled < i.high * unit

/-- The nearest of the multiples of `10 ^ exponent` that round to the float. -/
def Interval.onGrid? (i : Interval) (exponent : Int) : Option Decimal :=
  let numerator := i.value * Nat.pow 10 (-exponent).toNat
  let unit := i.denominator * Nat.pow 10 exponent.toNat
  let below : Decimal := ⟨numerator / unit, exponent⟩
  let above : Decimal := ⟨numerator / unit + 1, exponent⟩
  match i.contains below, i.contains above with
  | false, false => none
  | true, false => some below
  | false, true => some above
  | true, true => some (if 2 * (numerator % unit) < unit then below else above)

/-- The first grid with a hit, from `10 ^ exponent` down over so many grids. -/
def Interval.search (i : Interval) (exponent : Int) : Nat → Decimal
  | 0 => ⟨0, 0⟩
  | grids + 1 => (i.onGrid? exponent).getD (i.search (exponent - 1) grids)

/-- The decimal that stands for a magnitude. No float but zero is below the
    grid of the last exponent searched. -/
def ofBinary (b : Binary) : Decimal :=
  if b.significand = 0 then ⟨0, 0⟩ else (Interval.of b).search 309 640

end Shortest

/-! ### Text of floats -/

namespace Decimal

/-- A decimal without exponent: zeros are added at the end, or between the
    point and the first digit, and a whole number has no point. -/
def text (d : Decimal) : String :=
  let digits := Nat.toDigits 10 d.digits
  let places := (-d.exponent).toNat
  if places = 0 then String.ofList (digits ++ List.replicate d.exponent.toNat '0')
  else
    let padded := List.replicate (places + 1 - digits.length) '0' ++ digits
    let whole := padded.length - places
    String.ofList (padded.take whole ++ '.' :: padded.drop whole)

end Decimal

/-- The text of a float. No number has no sign; negative zero has one. -/
def floatText (x : Float) : String :=
  if x.isNaN then "NaN"
  else
    let magnitude := if x.isInf then "inf" else (Shortest.ofBinary (Binary.ofFloat x)).text
    if Binary.isNegative x then "-" ++ magnitude else magnitude

end RuleEngine
