/-!
# Decimal fractions

A decimal fraction is a whole number times a power of ten. `Decimal.toFloat`
is the float nearest to it, and `Decimal.float?` reads floats from text.
-/

namespace RuleEngine

/-- The number `digits * 10 ^ exponent`. -/
structure Decimal where
  digits : Nat
  exponent : Int

namespace Decimal

/-- The value of a decimal digit. -/
def digit? (c : Char) : Option Nat :=
  if '0' ≤ c ∧ c ≤ '9' then some (c.toNat - '0'.toNat) else none

/-- Whether a character is a decimal digit. -/
def isDigit (c : Char) : Bool :=
  '0' ≤ c && c ≤ '9'

/-- The number that decimal digits write. -/
def ofDigits (cs : List Char) : Nat :=
  cs.foldl (fun n c => 10 * n + (digit? c).getD 0) 0

/-- The float nearest to a decimal fraction, of two the one with an even
    significand. Fractions out of the range of floats are told by their size
    alone, so that no large power of ten is ever computed. -/
def toFloat (d : Decimal) : Float :=
  let size := d.exponent + (Nat.toDigits 10 d.digits).length
  if d.digits = 0 ∨ size < -400 then 0
  else if size > 400 then 1.0 / 0.0
  else Float.ofScientific d.digits (d.exponent < 0) d.exponent.natAbs

/-- Whole digits, then a point and more digits, or either of them alone. What
    follows them is left over. -/
def read? (cs : List Char) : Option (Decimal × List Char) :=
  let whole := cs.takeWhile isDigit
  let rest := cs.dropWhile isDigit
  let (fraction, rest) :=
    match rest with
    | '.' :: tail => (tail.takeWhile isDigit, tail.dropWhile isDigit)
    | _ => ([], rest)
  if whole.isEmpty && fraction.isEmpty then none
  else some (⟨ofDigits (whole ++ fraction), -fraction.length⟩, rest)

/-- An exponent with an optional sign, up to the end of the text. -/
def exponent? (cs : List Char) : Option Int :=
  let magnitude? (digits : List Char) : Option Nat :=
    if !digits.isEmpty && digits.all isDigit then some (ofDigits digits) else none
  match cs with
  | '-' :: digits => (magnitude? digits).map fun n => -n
  | '+' :: digits => (magnitude? digits).map fun n => n
  | digits => (magnitude? digits).map fun n => n

/-- A float without sign: a decimal fraction with or without exponent, or one
    of the words for infinity and for no number. -/
def magnitude? (cs : List Char) : Option Float :=
  match String.ofList (cs.map Char.toLower) with
  | "inf" | "infinity" => some (1.0 / 0.0)
  | "nan" => some (0.0 / 0.0)
  | _ =>
    match read? cs with
    | some (d, []) => some d.toFloat
    | some (d, 'e' :: rest) | some (d, 'E' :: rest) =>
      (exponent? rest).map fun e => toFloat ⟨d.digits, d.exponent + e⟩
    | _ => none

/-- The float that a text writes. -/
def float? (text : String) : Option Float :=
  match text.toList with
  | '-' :: rest => (magnitude? rest).map (-·)
  | '+' :: rest => magnitude? rest
  | rest => magnitude? rest

end Decimal

end RuleEngine
