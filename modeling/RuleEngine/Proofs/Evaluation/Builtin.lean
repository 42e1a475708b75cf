import RuleEngine.Function.Host
import RuleEngine.Proofs.Evaluation.Caching
import RuleEngine.Proofs.Evaluation.Returns

/-!
# The functions that are there

The built-in functions and the ready-made ones do nothing with the rules they
are given but evaluate them and name them in failures. So they go on alike
whatever is known of the kinds of these rules (`Registry.isBlind_builtin`,
`HostFunction.isBlind_toFunction`). The built-in ones finish only with truth
values, as they declare.
-/

namespace RuleEngine

/-- Searching a pattern needs no rule at all. -/
theorem regexMatchAction_alike (args : List Value) :
    Action.Alike Compiled.Alike (regexMatchAction args) (regexMatchAction args) := by
  unfold regexMatchAction
  split
  · exact .finish _
  · split
    · exact .search _ _ fun _ => .finish _
    · exact .finish _

namespace Quantifier

variable (q : Quantifier)

/-- From one record on, a quantifier goes on alike with rules that are alike. -/
theorem scan_alike (source : String) (items : List Value) (index : Nat)
    {compiled compiled' : Option Compiled} (h : Option.Rel Compiled.Alike compiled compiled') :
    Action.Alike Compiled.Alike (q.scan source compiled index items)
      (q.scan source compiled' index items) := by
  induction items generalizing index compiled compiled' with
  | nil => exact .finish _
  | cons item rest ih =>
    cases item with
    | record fields =>
      have hrecord {rule rule' : Compiled} (hrule : rule.Alike rule') :
          Action.Alike Compiled.Alike (q.scan source (some rule) index (.record fields :: rest))
            (q.scan source (some rule') index (.record fields :: rest)) := by
        refine .evaluate hrule fields fun result => ?_
        rw [hrule.source]
        split
        · exact .finish _
        · split
          · exact .finish _
          · exact ih (index + 1) (.some hrule)
      -- The rule is compiled at the first record and kept for the others.
      cases h with
      | some hrule => exact hrecord hrule
      | none =>
        refine .compile source fun r r' hr => ?_
        cases hr with
        | ok hrule => exact hrecord hrule
        | error e => exact .finish _
    | _ => exact .finish _

theorem action_alike (args : List Value) :
    Action.Alike Compiled.Alike (q.action args) (q.action args) := by
  unfold action
  split
  · exact q.scan_alike _ _ _ .none
  all_goals exact .finish _

end Quantifier

/-! ### Truth values -/

theorem regexMatchAction_finishes (args : List Value) :
    (regexMatchAction args).Finishes (·.kind = .boolean) := by
  unfold regexMatchAction
  split
  · exact .finish nofun
  · split
    · refine .search _ _ fun found => .finish fun v hv => ?_
      cases found <;> cases hv
      rfl
    · exact .finish fun v hv => Except.ok.inj hv ▸ rfl

namespace Quantifier

variable (q : Quantifier)

theorem scan_finishes (source : String) (items : List Value) (index : Nat)
    (compiled : Option Compiled) :
    (q.scan source compiled index items).Finishes (·.kind = .boolean) := by
  induction items generalizing index compiled with
  | nil => exact .finish fun v hv => Except.ok.inj hv ▸ rfl
  | cons item rest ih =>
    cases item with
    | record fields =>
      have hrecord (rule : Compiled) :
          (q.scan source (some rule) index (.record fields :: rest)).Finishes
            (·.kind = .boolean) := by
        refine .evaluate rule fields fun result => ?_
        split
        · exact .finish nofun
        · split
          · exact .finish fun v hv => Except.ok.inj hv ▸ rfl
          · exact ih (index + 1) (some rule)
      cases compiled with
      | some rule => exact hrecord rule
      | none =>
        refine .compile source fun result => ?_
        cases result with
        | ok rule => exact hrecord rule
        | error e => exact .finish nofun
    | _ => exact .finish nofun

theorem action_finishes (args : List Value) : (q.action args).Finishes (·.kind = .boolean) := by
  unfold action
  split
  · exact q.scan_finishes _ _ _ _
  · exact .finish fun v hv => Except.ok.inj hv ▸ rfl
  all_goals exact .finish nofun

end Quantifier

/-! ### Registries -/

/-- A function is one of those that are built in. -/
def Function.IsBuiltin (function : Function) : Prop :=
  function = regexMatch ∨ ∃ q : Quantifier, function = q.toFunction

/-- There are no other built-in functions. -/
theorem Registry.eq_of_get?_builtin {name : String} {function : Function}
    (h : Fields.get? builtin name = some function) : function.IsBuiltin := by
  simp only [builtin, Table.ofList, Table.insert, List.foldl_cons, List.foldl_nil,
    Fields.get?_insert] at h
  split at h
  · exact .inr ⟨.all, (Option.some.inj h).symm⟩
  · split at h
    · exact .inr ⟨.any, (Option.some.inj h).symm⟩
    · split at h
      · exact .inl (Option.some.inj h).symm
      · cases h

/-- The built-in functions only evaluate the rules they are given. -/
theorem Registry.isBlind_builtin : Registry.builtin.IsBlind := by
  intro name function h registered call
  obtain rfl | ⟨q, rfl⟩ := eq_of_get?_builtin h
  · exact regexMatchAction_alike call.args
  · exact q.action_alike call.args

namespace HostFunction

theorem evaluated_alike (source : String) (record : Record)
    {next : Compiled → Value → Except Error Value}
    (hnext : ∀ rule rule' value, rule.Alike rule' → next rule value = next rule' value) :
    Action.Alike Compiled.Alike (evaluated source record next) (evaluated source record next) := by
  refine .compile source fun r r' hr => ?_
  cases hr with
  | error e => exact .finish _
  | ok hrule =>
    refine .evaluate hrule record fun result => ?_
    rw [show next _ = next _ from funext fun value => hnext _ _ value hrule]
    exact .finish _

/-- So do the ready-made ones, whatever kind is declared. -/
theorem isBlind_toFunction (f : HostFunction) (declared : Option Kind) :
    (f.toFunction declared).IsBlind := by
  intro registered call
  change Action.Alike Compiled.Alike (f.action registered call) (f.action registered call)
  unfold action
  split
  · exact Quantifier.action_alike _ _
  · exact regexMatchAction_alike _
  all_goals first
    | exact .finish _
    | exact evaluated_alike _ _ fun rule rule' value h => by rw [h.source]
    | exact evaluated_alike _ _ fun _ _ _ _ => rfl
    | exact .search _ _ fun _ => .finish _

end HostFunction

end RuleEngine
