import RuleEngine.Error
import RuleEngine.Numeric.Binary
import RuleEngine.Numeric.Word
import RuleEngine.Value

/-!
# Applying operators

What the operators do to values. A missing operand makes an arithmetic result
missing and counts as false in a condition. Integer results are exact: what is
out of range is reported.
-/

namespace RuleEngine

/-! ### Arithmetic -/

/-- Whether a value is the integer zero. -/
def Value.isIntegerZero : Value → Bool
  | integer n => n == 0
  | _ => false

namespace Arithmetic

/-- Whether an operator divides. -/
def isDivision : Arithmetic → Bool
  | div => true
  | mod => true
  | _ => false

/-- The result on integers, where the divisor is not zero. A remainder is there
    only if its quotient is. -/
def integerResult? (op : Arithmetic) (a b : Int) : Option Int64 :=
  match op with
  | add => int64? (a + b)
  | sub => int64? (a - b)
  | mul => int64? (a * b)
  | div => int64? (a.tdiv b)
  | mod => (int64? (a.tdiv b)).bind fun _ => int64? (a.tmod b)

/-- The result on floats. -/
def floatResult (op : Arithmetic) (a b : Float) : Float :=
  match op with
  | add => a + b
  | sub => a - b
  | mul => a * b
  | div => a / b
  | mod => floatRemainder a b

/-- The result on integers. -/
def applyIntegers (op : Arithmetic) (a b : Int64) : Except Error Value :=
  if op.isDivision && b == 0 then .error .divisionByZero
  else
    match op.integerResult? a.toInt b.toInt with
    | some n => .ok (.integer n)
    | none => .error (.overflow (.binary (.arithmetic op)))

/-- The result on numbers one of which is a float. The integer zero, and it
    alone, is refused as a divisor. -/
def applyNumbers (op : Arithmetic) (left right : Value) : Except Error Value :=
  match left.number?, right.number? with
  | some a, some b =>
    if op.isDivision && right.isIntegerZero then .error .divisionByZero
    else .ok (.float (op.floatResult a b))
  | _, _ => .error (.typeMismatch (.binary (.arithmetic op)) left.kind (some right.kind))

/-- The result on values: a missing operand makes it missing, and two strings can
    be added. -/
def apply (op : Arithmetic) (left right : Value) : Except Error Value :=
  match left, right with
  | .missing, _ => .ok .missing
  | _, .missing => .ok .missing
  | .integer a, .integer b => op.applyIntegers a b
  | .string a, .string b =>
    if op = add then .ok (.string (a ++ b))
    else .error (.typeMismatch (.binary (.arithmetic op)) .string (some .string))
  | left, right => op.applyNumbers left right

end Arithmetic

/-! ### Comparison -/

/-- The order of two floats; none if one of them is no number. -/
def floatOrder? (a b : Float) : Option Ordering :=
  if a < b then some .lt
  else if a == b then some .eq
  else if b < a then some .gt
  else none

namespace Comparison

/-- Whether a comparison holds of operands in an order. -/
def holds (op : Comparison) (o : Ordering) : Bool :=
  match op with
  | eq => o.isEq
  | ne => o.isNe
  | lt => o.isLT
  | le => o.isLE
  | gt => o.isGT
  | ge => o.isGE

/-- The result on operands that may have no order: these are only unequal. -/
def decides (op : Comparison) (order? : Option Ordering) : Value :=
  .boolean (match order? with
    | some o => op.holds o
    | none => op = ne)

/-- The result where an operand is missing: only missing equals missing, and
    nothing is ordered. -/
def decidesMissing (op : Comparison) (both : Bool) : Value :=
  .boolean (match op with
    | eq => both
    | ne => !both
    | _ => false)

/-- The result on values: integers by size, strings by code points, a float and
    another number as floats. Booleans are equal or not and have no order. -/
def apply (op : Comparison) (left right : Value) : Except Error Value :=
  match left, right with
  | .missing, right => .ok (op.decidesMissing right.isMissing)
  | _, .missing => .ok (op.decidesMissing false)
  | .integer a, .integer b => .ok (op.decides (some (compareOfLessAndEq a.toInt b.toInt)))
  | .string a, .string b => .ok (op.decides (some (compareOfLessAndEq a b)))
  | .boolean a, .boolean b =>
    match op with
    | eq => .ok (.boolean (a == b))
    | ne => .ok (.boolean (a != b))
    | op => .error (.typeMismatch (.binary (.comparison op)) .boolean (some .boolean))
  | left, right =>
    match left.number?, right.number? with
    | some a, some b => .ok (op.decides (floatOrder? a b))
    | _, _ => .error (.typeMismatch (.binary (.comparison op)) left.kind (some right.kind))

end Comparison

/-! ### Conditions -/

/-- The truth of a value, where it is used as a condition by an operation;
    missing is false. -/
def Value.truth (operation : Operation) : Value → Except Error Bool
  | .boolean b => .ok b
  | .missing => .ok false
  | v => .error (.typeMismatch operation v.kind none)

/-- The operand that decides a chain of operators whatever follows. -/
def Logical.decisive : Logical → Bool
  | and => false
  | or => true

/-! ### Unary operators -/

/-- The result on a value. -/
def UnaryOp.apply (op : UnaryOp) (operand : Value) : Except Error Value :=
  match op, operand with
  | not, .boolean b => .ok (.boolean (!b))
  | not, .missing => .ok (.boolean true)
  | minus, .missing => .ok .missing
  | minus, .integer n =>
    match int64? (-n.toInt) with
    | some m => .ok (.integer m)
    | none => .error (.overflow (.unary minus))
  | minus, .float x => .ok (.float (-x))
  | op, operand => .error (.typeMismatch (.unary op) operand.kind none)

end RuleEngine
