import RuleEngine.Compiled
import RuleEngine.Pattern
import RuleEngine.Text.Quoted

/-!
# Functions

A function answers a call with an `Action`: a result, or a request to the engine
that called it together with what to do with the answer. So a function can have
rules compiled and evaluated and texts searched without access to the engine.
A registry holds functions under their names. Of the registry a function sees these
names and no more, and it cannot change it: the functions are the same from the
beginning of an evaluation to its end.
-/

namespace RuleEngine

/-- One call of a function. -/
structure Call where
  /-- The name that the function was called under. -/
  function : String
  /-- How many calls this one is inside of. -/
  depth : Nat
  args : List Value

/-- What a function does next. -/
inductive Action where
  | finish (result : Except Error Value)
  /-- Has a rule compiled. -/
  | compile (source : String) (next : Except Error Compiled → Action)
  /-- Has a rule evaluated against a record, one level deeper. -/
  | evaluate (rule : Compiled) (record : Record) (next : Except Error Value → Action)
  /-- Has a pattern searched in a text. -/
  | search (pattern subject : String) (next : Except Error Bool → Action)

namespace Action

/-- Finishes with a value. -/
def done (value : Value) : Action :=
  finish (.ok value)

/-- Finishes with a failure. -/
def fail (e : Error) : Action :=
  finish (.error e)

end Action

/-- A function that rules can call. -/
structure Function where
  /-- The kind that it always returns, if that is fixed. -/
  returnKind : Option Kind
  /-- What it does on a call. Of the registry it is told which names are bound, but not
      to what, so it gets at other functions only by the rules that it has evaluated. It
      acts on the engine by its action alone: it cannot register functions, clear the
      caches or read what is in them. -/
  action : (String → Bool) → Call → Action

/-- Functions under their names. -/
abbrev Registry := Fields Function

namespace Registry

/-- Adds a function; a name that is taken stays with its function. -/
def register (registry : Registry) (name : String) (function : Function) :
    Except Error Registry :=
  if Fields.contains registry name then .error (.duplicateFunction name)
  else .ok (Fields.insert registry name function)

/-- A registry as shown to its host: the names of its functions. -/
def text (registry : Registry) : String :=
  "FunctionRegistry \x7b functions: [" ++
    ", ".intercalate ((Fields.names registry).map Quoted.text) ++ "] \x7d"

/-- What rules see of a registry. -/
def scope (registry : Registry) (strict : Bool) : Scope where
  strict := strict
  returnKind? name := (Fields.get? registry name).map (·.returnKind)

end Registry

end RuleEngine
