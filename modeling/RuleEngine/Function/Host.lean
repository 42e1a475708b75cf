import RuleEngine.Function.Builtin

/-!
# Ready-made functions

Functions that a host can register without writing its own: constants, parts of
a call, arithmetic on one argument, and ways back into the engine. They have no
fixed kind unless the host declares one.
-/

namespace RuleEngine

/-- The ready-made functions. -/
inductive HostFunction where
  | quantifier (q : Quantifier)
  | regexMatch
  /-- Always the same value. -/
  | constant (value : Value)
  /-- The first argument. -/
  | first
  /-- The number of arguments. -/
  | argCount
  /-- The list of the arguments. -/
  | args
  /-- Fails with a message. -/
  | fail (message : String)
  /-- The depth of the call. -/
  | depth
  /-- The name that it was called under. -/
  | name
  /-- Whether a name is that of a function. -/
  | has
  /-- Evaluates a rule against a record. -/
  | apply
  /-- Evaluates a rule against a record as a condition. -/
  | applyBool
  /-- Evaluates a rule against a record that holds the text of that rule. -/
  | again
  /-- Searches a pattern in a text. -/
  | pattern
  /-- Twice an integer. -/
  | double
  /-- The number of characters of a string. -/
  | len

namespace HostFunction

/-- Has a rule compiled and evaluated; the result goes on to `next`. -/
def evaluated (source : String) (record : Record)
    (next : Compiled → Value → Except Error Value) : Action :=
  .compile source fun
    | .error e => .fail e
    | .ok rule => .evaluate rule record fun result => .finish (result.bind (next rule))

/-- The field that a rule finds its own text in. -/
def ruleField : String := "Rule"

/-- What a ready-made function does on a call. -/
def action (f : HostFunction) (registered : String → Bool) (call : Call) : Action :=
  match f, call.args with
  | quantifier q, values => q.action values
  | regexMatch, values => regexMatchAction values
  | constant value, _ => .done value
  | first, values => .done (values.head?.getD .missing)
  | argCount, values => .done (.integer (Int64.ofNat values.length))
  | args, values => .done (.list values)
  | fail message, _ => .fail (.invalidArgument call.function (.other message))
  | depth, _ => .done (.integer (Int64.ofNat call.depth))
  | name, _ => .done (.string call.function)
  | has, [.string s] => .done (.boolean (registered s))
  | apply, [.string source, .record fields] => evaluated source fields fun _ value => .ok value
  | applyBool, [.string source, .record fields] =>
    evaluated source fields fun rule value =>
      (value.truth (.conditionOf rule.source)).map .boolean
  | again, [.string source] =>
    evaluated source [(ruleField, .string source)] fun _ value => .ok value
  | pattern, [.string text, .string subject] =>
    .search text subject fun found => .finish (found.map .boolean)
  | double, [.integer n] =>
    .done (match int64? (2 * n.toInt) with
      | some m => .integer m
      | none => .missing)
  | double, _ => .done .missing
  | len, [.string s] => .done (.integer (Int64.ofNat s.length))
  | len, _ => .done .missing
  | _, _ => .fail (.invalidArgument call.function (.other "bad arguments"))

/-- A ready-made function with a declared kind. Those that are built in have
    their own; those that only compute from their arguments have none. -/
def toFunction (f : HostFunction) (declared : Option Kind) : Function where
  returnKind :=
    match f with
    | quantifier _ => some .boolean
    | regexMatch => some .boolean
    | double => none
    | len => none
    | _ => declared
  action := f.action

end HostFunction

end RuleEngine
