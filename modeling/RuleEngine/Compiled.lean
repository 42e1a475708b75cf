import RuleEngine.Config
import RuleEngine.Expr.Parser

/-!
# Compiled rules

A rule is compiled once and evaluated often. Compiling reads the rule, looks up
the functions it calls, and infers the kind of its result where that is known.
Nothing is evaluated, and operands of the wrong kinds are no failure: they are
met only if the rule gets there.
-/

namespace RuleEngine

/-- The functions that a rule may call, and what is known of their results. -/
structure Scope where
  /-- Whether calls of other functions are refused. -/
  strict : Bool
  /-- The kind that a function always returns, if it is fixed; nothing for a
      name that no function has. -/
  returnKind? : String → Option (Option Kind)

namespace Expr

mutual

/-- The kind of the result, where it is known. The first call of an unknown
    function fails in a strict scope. -/
def check (scope : Scope) : Expr → Except Error (Option Kind)
  | literal value => .ok (some value.kind)
  | field _ => .ok none
  | binary op left right => do
    let leftKind ← check scope left
    let rightKind ← check scope right
    if op.isLogical then return some .boolean
    match leftKind, rightKind with
    | some l, some r => return (op.outputKind? l r).or op.dynamicKind?
    | _, _ => return op.dynamicKind?
  | unary op operand => do
    let kind ← check scope operand
    match op with
    | .not => return some .boolean
    | .minus => return kind.bind UnaryOp.minus.outputKind?
  | call function args => do
    checkAll scope args
    match scope.returnKind? function with
    | some kind => return kind
    | none => if scope.strict then throw (.unknownFunction function) else return none

/-- Checks expressions from left to right. -/
def checkAll (scope : Scope) : List Expr → Except Error Unit
  | [] => .ok ()
  | e :: rest => do
    let _ ← check scope e
    checkAll scope rest

end

/-- Whether the rule can be a condition: its kind is not known, or boolean. -/
def checkPredicate (scope : Scope) (e : Expr) : Except Error Unit := do
  match ← check scope e with
  | none => return ()
  | some .boolean => return ()
  | some kind => throw (.typeMismatch .condition kind none)

end Expr

/-- A rule that has been read and checked. -/
structure Compiled where
  source : String
  root : Expr
  /-- The names of the functions it calls, in order. -/
  functions : List String
  /-- The kind of its result, where it was known. -/
  resultKind : Option Kind

namespace Compiled

/-- The names of the fields it reads, in order. Rules inside strings have
    fields of their own. -/
def fields (rule : Compiled) : List String :=
  rule.root.fieldNames

/-- Compiles a rule. -/
def ofSource (scope : Scope) (maxDepth : Nat) (source : String) : Except Error Compiled := do
  let root ← Expr.parse source maxDepth
  let kind ← root.check scope
  return ⟨source, root, root.functionNames, kind⟩

/-- Compiles a rule that is to be a condition. -/
def ofPredicate (scope : Scope) (maxDepth : Nat) (source : String) : Except Error Compiled := do
  let rule ← ofSource scope maxDepth source
  rule.root.checkPredicate scope
  return rule

end Compiled

end RuleEngine
