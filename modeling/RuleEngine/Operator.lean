import RuleEngine.Kind

/-!
# Operators

The operators of rules, grouped by what they do, and the kinds of their
results. `BinaryOp.outputKind` is a table over the kinds of the operands: where
it has no entry, the operator fails on any two values of these kinds.
-/

namespace RuleEngine

/-- Operators on numbers; `add` also joins strings. -/
inductive Arithmetic where
  | add
  | sub
  | mul
  | div
  | mod
  deriving DecidableEq

/-- Comparisons of two values. -/
inductive Comparison where
  | eq
  | ne
  | lt
  | le
  | gt
  | ge
  deriving DecidableEq

/-- Whether a pattern occurs in a subject, or does not. -/
inductive Matching where
  | found
  | absent
  deriving DecidableEq

/-- Operators on conditions. -/
inductive Logical where
  | and
  | or
  deriving DecidableEq

/-- An operator between two operands. -/
inductive BinaryOp where
  | arithmetic (op : Arithmetic)
  | comparison (op : Comparison)
  | matching (op : Matching)
  | logical (op : Logical)
  deriving DecidableEq

/-- An operator before its operand. -/
inductive UnaryOp where
  | not
  | minus
  deriving DecidableEq

/-! ### Spelling -/

/-- How an arithmetic operator is written. -/
def Arithmetic.text : Arithmetic → String
  | add => "+"
  | sub => "-"
  | mul => "*"
  | div => "/"
  | mod => "%"

/-- How a comparison is written. -/
def Comparison.text : Comparison → String
  | eq => "=="
  | ne => "!="
  | lt => "<"
  | le => "<="
  | gt => ">"
  | ge => ">="

/-- How a match is written. -/
def Matching.text : Matching → String
  | found => "=~"
  | absent => "!~"

/-- How a logical operator is written. -/
def Logical.text : Logical → String
  | and => "&&"
  | or => "||"

/-- How an operator between two operands is written. -/
def BinaryOp.text : BinaryOp → String
  | arithmetic op => op.text
  | comparison op => op.text
  | matching op => op.text
  | logical op => op.text

/-- How an operator before its operand is written. -/
def UnaryOp.text : UnaryOp → String
  | not => "!"
  | minus => "-"

/-! ### Kinds of results -/

/-- Two integers give an integer; with a float among them, two numbers give a
    float. -/
def numericKind? : Kind → Kind → Option Kind
  | .integer, .integer => some .integer
  | .integer, .float => some .float
  | .float, .integer => some .float
  | .float, .float => some .float
  | _, _ => none

namespace BinaryOp

/-- Whether an operator computes a number or a string. -/
def isArithmetic : BinaryOp → Bool
  | arithmetic _ => true
  | _ => false

/-- Whether an operator joins conditions. -/
def isLogical : BinaryOp → Bool
  | logical _ => true
  | _ => false

/-- The kind of the result on operands of two kinds, if there is one. -/
def outputKind? (op : BinaryOp) (left right : Kind) : Option Kind :=
  match op, left, right with
  | arithmetic .add, .string, .string => some .string
  | arithmetic _, l, r => numericKind? l r
  | comparison .eq, .boolean, .boolean => some .boolean
  | comparison .ne, .boolean, .boolean => some .boolean
  | comparison _, .string, .string => some .boolean
  | comparison _, l, r => (numericKind? l r).map fun _ => .boolean
  | matching _, .string, .string => some .boolean
  | matching _, _, _ => none
  | logical _, .boolean, .boolean => some .boolean
  | logical _, _, _ => none

/-- The kind of the result when the kinds of the operands are not known. -/
def dynamicKind? (op : BinaryOp) : Option Kind :=
  if op.isArithmetic then none else some .boolean

end BinaryOp

/-- The kind of the result on an operand of a kind, if there is one. -/
def UnaryOp.outputKind? : UnaryOp → Kind → Option Kind
  | not, .boolean => some .boolean
  | minus, .integer => some .integer
  | minus, .float => some .float
  | _, _ => none

end RuleEngine
