import RuleEngine.Function
import RuleEngine.Operator.Apply

/-!
# The built-in functions

`regexMatch(subject, pattern)` searches a pattern in a text. `any(rule, items)`
and `all(rule, items)` evaluate a rule, given as a string, against the records
of a list, from left to right and no further than needed. A missing list is an
empty one.
-/

namespace RuleEngine

/-! ### Arguments -/

/-- Checks that there are so many arguments and that all are strings. Those at
    the positions listed may be missing instead. -/
def validateStrings (function : String) (expected : Nat) (args : List Value)
    (mayBeMissing : List Nat) : Except Error Unit :=
  if args.length ≠ expected then
    .error (.invalidArgument function (.count expected args.length))
  else checkFrom 0 args
where
  checkFrom (position : Nat) : List Value → Except Error Unit
    | [] => .ok ()
    | .string _ :: rest => checkFrom (position + 1) rest
    | v :: rest =>
      if v.isMissing && mayBeMissing.contains position then checkFrom (position + 1) rest
      else .error (.invalidArgument function (.notAString position v.kind))

/-! ### Patterns -/

/-- The name of the function that searches a pattern. -/
def regexMatchName : String := "regexMatch"

/-- Searches a pattern; in a missing subject nothing is found. -/
def regexMatchAction (args : List Value) : Action :=
  match validateStrings regexMatchName 2 args [0] with
  | .error e => .fail e
  | .ok () =>
    match args with
    | [.string subject, .string pattern] =>
      .search pattern subject fun found => .finish (found.map .boolean)
    | _ => .done (.boolean false)

/-- The function that searches a pattern in a text. -/
def regexMatch : Function where
  returnKind := some .boolean
  action _ call := regexMatchAction call.args

/-! ### Quantifiers -/

/-- Whether a rule holds of some record of a list, or of every one. -/
inductive Quantifier where
  | any
  | all
  deriving DecidableEq

namespace Quantifier

/-- The name of a quantifier. -/
def name : Quantifier → String
  | any => "any"
  | all => "all"

/-- The result on one record that settles the whole. -/
def decisive : Quantifier → Bool
  | any => true
  | all => false

/-- Goes on with the records from `index` on. The rule is compiled at the first
    record, so an empty list never has it compiled. -/
def scan (q : Quantifier) (source : String) (compiled : Option Compiled) (index : Nat) :
    List Value → Action
  | [] => .done (.boolean !q.decisive)
  | .record fields :: rest =>
    let onRecord (rule : Compiled) : Action :=
      .evaluate rule fields fun result =>
        match result.bind (Value.truth (.conditionOf rule.source)) with
        | .error e => .fail (.inElement q.name index e)
        | .ok holds =>
          if holds = q.decisive then .done (.boolean q.decisive)
          else scan q source (some rule) (index + 1) rest
    match compiled with
    | some rule => onRecord rule
    | none =>
      .compile source fun
        | .error e => .fail e
        | .ok rule => onRecord rule
  | v :: _ => .fail (.invalidArgument q.name (.notARecord index v.kind))

/-- The answer to a call: a rule and a list are expected. -/
def action (q : Quantifier) (args : List Value) : Action :=
  match args with
  | [.string source, .list items] => q.scan source none 0 items
  | [.string _, .missing] => .done (.boolean !q.decisive)
  | [.string _, v] => .fail (.invalidArgument q.name (.notASequence 1 v.kind))
  | [v, _] => .fail (.invalidArgument q.name (.notAString 0 v.kind))
  | args => .fail (.invalidArgument q.name (.count 2 args.length))

/-- A quantifier as a function. -/
def toFunction (q : Quantifier) : Function where
  returnKind := some .boolean
  action _ call := q.action call.args

end Quantifier

/-- The functions that every engine has unless told otherwise. -/
def Registry.builtin : Registry :=
  (Table.ofList [(regexMatchName, regexMatch), (Quantifier.any.name, Quantifier.any.toFunction),
    (Quantifier.all.name, Quantifier.all.toFunction)]).entries

end RuleEngine
