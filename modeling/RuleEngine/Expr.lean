import RuleEngine.Operator
import RuleEngine.Value

/-!
# Expressions

The tree of a rule, and the names in it: the functions it calls and the fields
it reads.
-/

namespace RuleEngine

/-- A rule as a tree. -/
inductive Expr where
  | literal (value : Value)
  | field (name : String)
  | binary (op : BinaryOp) (left right : Expr)
  | unary (op : UnaryOp) (operand : Expr)
  | call (function : String) (args : List Expr)

namespace Expr

mutual

/-- The names of the calls from left to right, each call after its arguments. -/
def calls : Expr → List String
  | literal _ => []
  | field _ => []
  | binary _ left right => calls left ++ calls right
  | unary _ operand => calls operand
  | call function args => callsOfAll args ++ [function]

/-- The names of the calls in some expressions. -/
def callsOfAll : List Expr → List String
  | [] => []
  | e :: rest => calls e ++ callsOfAll rest

end

mutual

/-- The names of the fields from left to right. -/
def reads : Expr → List String
  | literal _ => []
  | field name => [name]
  | binary _ left right => reads left ++ reads right
  | unary _ operand => reads operand
  | call _ args => readsOfAll args

/-- The names of the fields in some expressions. -/
def readsOfAll : List Expr → List String
  | [] => []
  | e :: rest => reads e ++ readsOfAll rest

end

/-- The names of the functions called anywhere in the tree, in order. -/
def functionNames (e : Expr) : List String :=
  sortedNames e.calls

/-- The names of the fields read anywhere in the tree, in order. -/
def fieldNames (e : Expr) : List String :=
  sortedNames e.reads

end Expr

end RuleEngine
