/-!
# Floats as binary fractions

A finite float is a significand times a power of two, with a sign. Exact
arithmetic on floats is done on that form.
-/

namespace RuleEngine

/-- The magnitude `significand * 2 ^ exponent` of a finite float. -/
structure Binary where
  significand : Nat
  exponent : Int

namespace Binary

/-- The highest bit of a significand, `2 ^ 52`, which a float does not store. -/
def hiddenBit : Nat := 4503599627370496

/-- The bits of the significand that a float stores. -/
def fraction (x : Float) : Nat :=
  x.toBits.toNat % hiddenBit

/-- The exponent field of a float. -/
def exponentField (x : Float) : Nat :=
  x.toBits.toNat / hiddenBit % 2048

/-- Whether the sign bit of a float is set. -/
def isNegative (x : Float) : Bool :=
  9223372036854775808 ≤ x.toBits.toNat

/-- The magnitude of a finite float. -/
def ofFloat (x : Float) : Binary :=
  if exponentField x = 0 then ⟨fraction x, -1074⟩
  else ⟨hiddenBit + fraction x, exponentField x - 1075⟩

/-- The float of a magnitude that some float has. Its significand is brought to
    53 bits, or as near to that as the least exponent allows; the highest of
    them, which is not stored, counts one up in the exponent field. -/
def toFloat (b : Binary) : Float :=
  if b.significand = 0 then 0
  else
    let shift := min (52 - b.significand.log2) (b.exponent + 1074).toNat
    Float.ofBits (UInt64.ofNat
      (b.significand * Nat.pow 2 shift + (b.exponent + 1074 - shift).toNat * hiddenBit))

end Binary

/-! ### Remainder -/

/-- The remainder of two floats: `x` less the multiple of `y` next to it
    towards zero, computed without rounding, with the sign of `x`. It is no
    number when `x` is infinite or `y` is zero. -/
def floatRemainder (x y : Float) : Float :=
  if x.isNaN || y.isNaN || x.isInf || y == 0 then 0.0 / 0.0
  else if y.isInf then x
  else
    let a := Binary.ofFloat x
    let b := Binary.ofFloat y
    let exponent := min a.exponent b.exponent
    let scaled (c : Binary) : Nat := c.significand * Nat.pow 2 (c.exponent - exponent).toNat
    let magnitude := Binary.toFloat ⟨scaled a % scaled b, exponent⟩
    if Binary.isNegative x then -magnitude else magnitude

end RuleEngine
