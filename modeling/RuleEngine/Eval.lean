import RuleEngine.Cache
import RuleEngine.Function
import RuleEngine.Operator.Apply

/-!
# Evaluation

An expression is evaluated against a record, operands from left to right, and
calls after their arguments. A function that is called may have further rules
evaluated, each one level deeper than itself; what would go deeper than the
configuration allows fails. So evaluation is by recursion on the levels left,
within one level on what a function does, and otherwise on the tree.

Evaluation keeps a `Session`: the caches, and a journal of the calls.
-/

namespace RuleEngine

/-- What evaluation changes. -/
structure Session where
  caches : Caches
  /-- The calls of functions so far, the last one first. -/
  journal : List Call

/-- An evaluation. What it did to the session remains when it fails. -/
abbrev Run := ExceptT Error (StateM Session)

/-- What evaluation goes by: the functions there are, and the limits. -/
structure Environment where
  registry : Registry
  config : Config

namespace Environment

/-- What rules see of the functions when they are compiled. -/
def scope (env : Environment) : Scope :=
  env.registry.scope env.config.strictFunctions

end Environment

namespace Run

variable (env : Environment)

/-- The outcome of an evaluation, which does not fail here. -/
def outcome {α : Type} (run : Run α) : Run (Except Error α) :=
  ExceptT.lift run.run

/-- The result of what needs no session. -/
def ofResult {α : Type} (result : Except Error α) : Run α :=
  ExceptT.mk (pure result)

/-- The compiled rule of a text, by way of the cache. -/
def compile (source : String) : Run Compiled :=
  ExceptT.mk fun session =>
    let (result, caches) := session.caches.expression env.scope env.config source
    (result, { session with caches := caches })

/-- The pattern of a text, by way of the cache. -/
def pattern (text : String) : Run Pattern :=
  ExceptT.mk fun session =>
    let (result, caches) := session.caches.pattern env.config text
    (result, { session with caches := caches })

/-- Whether a pattern occurs in a text. -/
def search (text subject : String) : Run Bool := do
  let pattern ← pattern env text
  return pattern.occursIn subject

/-- Notes a call in the journal. -/
def note (call : Call) : Run Unit :=
  modify fun session => { session with journal := call :: session.journal }

/-- Carries out what a function does. Rules are evaluated by `deeper`. -/
def perform (deeper : Expr → Record → Run Value) : Action → Run Value
  | .finish result => ofResult result
  | .compile source next => do
    let result ← outcome (compile env source)
    perform deeper (next result)
  | .evaluate rule record next => do
    let result ← outcome (deeper rule.root record)
    perform deeper (next result)
  | .search pattern subject next => do
    let result ← outcome (search env pattern subject)
    perform deeper (next result)

end Run

/-- Whether a pattern occurs in a subject or does not. In a missing subject none
    does, and the pattern is not even read. -/
def Matching.apply (env : Environment) (op : Matching) (subject pattern : Value) : Run Value :=
  match subject, pattern with
  | .missing, .string _ => return .boolean (op = absent)
  | .string subject, .string pattern => do
    let found ← Run.search env pattern subject
    return .boolean (found != (op = absent))
  | subject, pattern =>
    throw (.typeMismatch (.binary (.matching op)) subject.kind (some pattern.kind))

namespace Expr

variable (env : Environment) (deeper : Expr → Record → Run Value) (depth : Nat) (record : Record)

mutual

/-- The value of an expression at a call depth, rules of functions being
    evaluated by `deeper`. -/
def evalWith : Expr → Run Value
  | literal value => return value
  | field name => return record.lookup name
  | binary (.logical op) left right => do
    let a ← Run.ofResult ((← evalWith left).truth (.binary (.logical op)))
    if a = op.decisive then return .boolean a
    let b ← Run.ofResult ((← evalWith right).truth (.binary (.logical op)))
    return .boolean b
  | binary (.arithmetic op) left right => do
    let a ← evalWith left
    let b ← evalWith right
    Run.ofResult (op.apply a b)
  | binary (.comparison op) left right => do
    let a ← evalWith left
    let b ← evalWith right
    Run.ofResult (op.apply a b)
  | binary (.matching op) left right => do
    let a ← evalWith left
    let b ← evalWith right
    op.apply env a b
  | unary op operand => do
    let a ← evalWith operand
    Run.ofResult (op.apply a)
  | call name args => do
    match Fields.get? env.registry name with
    | none => throw (.unknownFunction name)
    | some function =>
      let values ← evalAllWith args
      let call : Call := ⟨name, depth, values⟩
      Run.note call
      Run.perform env deeper (function.action (Fields.contains env.registry) call)

/-- The values of some expressions, from left to right. -/
def evalAllWith : List Expr → Run (List Value)
  | [] => return []
  | e :: rest => do
    let value ← evalWith e
    let values ← evalAllWith rest
    return value :: values

end

end Expr

namespace Expr

/-- The value of an expression with so many levels left below it. -/
def evalAt (env : Environment) : Nat → Expr → Record → Run Value
  | 0, e, record =>
    evalWith env (fun _ _ => throw (.recursionLimit env.config.maxDepth)) env.config.maxDepth
      record e
  | levels + 1, e, record =>
    evalWith env (evalAt env levels) (env.config.maxDepth - (levels + 1)) record e

/-- The value of an expression against a record. -/
def eval (env : Environment) (e : Expr) (record : Record) : Run Value :=
  evalAt env env.config.maxDepth e record

end Expr

end RuleEngine
