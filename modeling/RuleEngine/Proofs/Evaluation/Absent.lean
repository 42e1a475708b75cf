import RuleEngine.Proofs.Evaluation.Builtin
import RuleEngine.Proofs.Evaluation.Returns
import RuleEngine.Proofs.Evaluation.Simulation
import RuleEngine.Proofs.Record.Absent

/-!
# Evaluations that differ in missing fields

Two evaluations of one expression are run side by side, on records that differ in
missing fields only, from sessions with the same caches. With the built-in
functions alone they agree, and leave the same caches
(`Expr.evalAt_interchangeable`). What their values may still differ in are missing
fields again, of records that the expression hands on as they are.

The journals need not agree, since they note arguments. That does no harm, as
evaluation never reads them.

Operators do not look into lists and records, and pattern matching takes texts,
so what is left are quantifiers. A quantifier goes through lists that correspond
item by item (`Quantifier.scan_simulates`), and a level deeper the same holds of
the items by induction on the levels.
-/

namespace RuleEngine

/-- Two sessions hold the same caches. -/
def Session.SameCaches (s s' : Session) : Prop :=
  s.caches = s'.caches

/-- All functions are built in. -/
def Registry.IsBuiltin (registry : Registry) : Prop :=
  ∀ name function, Fields.get? registry name = some function → function.IsBuiltin

theorem Registry.isBuiltin_builtin : Registry.builtin.IsBuiltin :=
  fun _ _ => eq_of_get?_builtin

variable {env : Environment} {deeper : Expr → Record → Run Value} {args args' : List Value}

/-! ### Caches -/

namespace Run

theorem note_simulates (call call' : Call) :
    Simulates Session.SameCaches Eq (note call) (note call') :=
  fun _ _ hs => ⟨.ok rfl, hs⟩

theorem compile_simulates (source : String) :
    Simulates Session.SameCaches Eq (compile env source) (compile env source) := by
  rintro ⟨caches, journal⟩ ⟨_, journal'⟩ rfl
  exact ⟨.refl (fun _ => rfl) _, rfl⟩

theorem search_simulates (text subject : String) :
    Simulates Session.SameCaches Eq (search env text subject) (search env text subject) := by
  have hpattern : Simulates Session.SameCaches Eq (pattern env text) (pattern env text) := by
    rintro ⟨caches, journal⟩ ⟨_, journal'⟩ rfl
    exact ⟨.refl (fun _ => rfl) _, rfl⟩
  exact hpattern.bindEq fun pattern => .pure rfl

end Run

/-- Of a session evaluation needs the caches only. -/
theorem Environment.alike_sameCaches (env : Environment) :
    env.Alike Session.SameCaches Eq env :=
  env.alike_of_simulates (fun call => Run.note_simulates call call) Run.compile_simulates
    Run.search_simulates

/-! ### Arguments -/

namespace Value

variable {v v' : Value}

theorem outline_withoutMissing (v : Value) : v.withoutMissing.outline = v.outline := by
  cases v <;> rfl

/-- Operators do not tell values apart that differ in missing fields only. -/
theorem isResemblance_interchangeable : IsResemblance Interchangeable where
  refl := .refl
  outline {v v'} h := by
    rw [← v'.outline_withoutMissing, ← h.withoutMissing_eq, v.outline_withoutMissing]

theorem Interchangeable.outline_eq (h : Interchangeable v v') : v'.outline = v.outline :=
  isResemblance_interchangeable.outline h

/-- Nor do conditions. -/
theorem Interchangeable.truth_eq (h : Interchangeable v v') (operation : Operation) :
    v'.truth operation = v.truth operation := by
  rw [← v'.truth_outline, h.outline_eq, v.truth_outline]

theorem bind_truth_eq_of_agree {x y : Except Error Value} (h : Agree Interchangeable x y)
    (operation : Operation) : y.bind (truth operation) = x.bind (truth operation) := by
  cases h with
  | ok h => exact h.truth_eq operation
  | error e => rfl

end Value

/-! ### Functions -/

theorem regexMatchAction_of_length_ne (h : args.length ≠ 2) :
    regexMatchAction args = .fail (.invalidArgument regexMatchName (.count 2 args.length)) := by
  unfold regexMatchAction
  rw [validateStrings, if_pos h]

/-- Searching a pattern takes texts, and of anything else the kind. -/
theorem regexMatchAction_eq (h : List.Forall₂ Value.Interchangeable args args') :
    regexMatchAction args' = regexMatchAction args := by
  by_cases hlength : args.length = 2
  · obtain ⟨a, b, rfl⟩ := List.length_eq_two.mp hlength
    rcases h with _ | @⟨_, a', _, _, ha, _ | @⟨_, b', _, _, hb, _ | _⟩⟩
    have ha := ha.outline_eq
    have hb := hb.outline_eq
    rcases a with _ | _ | _ | _ | _ | _ | _ <;>
      rcases a' with _ | _ | _ | _ | _ | _ | _ <;> cases ha <;>
      -- With the constructors on both sides known the actions are the same.
      rcases b with _ | _ | _ | _ | _ | _ | _ <;>
      rcases b' with _ | _ | _ | _ | _ | _ | _ <;> cases hb <;> rfl
  · rw [regexMatchAction_of_length_ne hlength,
      regexMatchAction_of_length_ne (h.length_eq ▸ hlength), h.length_eq]

/-- Whatever expressions on records that correspond come to a level deeper
    corresponds as well. -/
def Run.Deepens (deeper : Expr → Record → Run Value) : Prop :=
  ∀ e (fields fields' : Record), Value.Interchangeable (.record fields) (.record fields') →
    Simulates Session.SameCaches Value.Interchangeable (deeper e fields) (deeper e fields')

namespace Quantifier

variable (q : Quantifier)

/-- A quantifier goes on alike with items that correspond. -/
theorem scan_simulates (hdeeper : Run.Deepens deeper) (source : String)
    (compiled : Option Compiled) (index : Nat) {items items' : List Value}
    (hitems : List.Forall₂ Value.Interchangeable items items') :
    Run.Simulates Session.SameCaches Eq
      (Run.perform env deeper (q.scan source compiled index items))
      (Run.perform env deeper (q.scan source compiled index items')) := by
  induction hitems generalizing compiled index with
  | nil => exact .ofSame _
  | @cons item item' rest rest' hitem _ ih =>
    have houtline := hitem.outline_eq
    rcases item with _ | _ | _ | _ | _ | _ | fields <;>
      rcases item' with _ | _ | _ | _ | _ | _ | fields' <;> cases houtline
    any_goals exact .ofSame _
    have hrecord (rule : Compiled) : Run.Simulates Session.SameCaches Eq
        (Run.perform env deeper (q.scan source (some rule) index (.record fields :: rest)))
        (Run.perform env deeper (q.scan source (some rule) index (.record fields' :: rest'))) := by
      refine (hdeeper rule.root _ _ hitem).outcome.bind fun result result' hresult => ?_
      dsimp only
      rw [Value.bind_truth_eq_of_agree hresult]
      -- The rule holds of both records or of neither, and so the scan ends on both sides or
      -- on neither.
      split
      · exact .ofSame _
      · split
        · exact .ofSame _
        · exact ih (some rule) (index + 1)
    rcases compiled with _ | rule
    · refine (Run.compile_simulates source).outcome.bind fun r r' hr => ?_
      rw [hr.eq]
      rcases r' with e | rule
      · exact .ofSame _
      · exact hrecord rule
    · exact hrecord rule

theorem action_of_length_ne (h : args.length ≠ 2) :
    q.action args = .fail (.invalidArgument q.name (.count 2 args.length)) := by
  unfold action
  split
  any_goals exact absurd rfl h
  rfl

/-- Of its arguments a quantifier takes a text and the items of a list, and of anything
    else the kind. -/
theorem action_simulates (hdeeper : Run.Deepens deeper)
    (hargs : List.Forall₂ Value.Interchangeable args args') :
    Run.Simulates Session.SameCaches Eq (Run.perform env deeper (q.action args))
      (Run.perform env deeper (q.action args')) := by
  by_cases hlength : args.length = 2
  · obtain ⟨a, b, rfl⟩ := List.length_eq_two.mp hlength
    rcases hargs with _ | @⟨_, a', _, _, ha, _ | @⟨_, b', _, _, hb, _ | _⟩⟩
    have houtline := ha.outline_eq
    rcases a with _ | _ | _ | _ | source | _ | _ <;>
      rcases a' with _ | _ | _ | _ | _ | _ | _ <;> cases houtline
    -- Unless the first argument is a text it is refused, and the second one is not looked at.
    any_goals exact .ofSame _
    have houtline := hb.outline_eq
    rcases b with _ | _ | _ | _ | _ | items | _ <;>
      rcases b' with _ | _ | _ | _ | _ | items' | _ <;> cases houtline
    any_goals exact .ofSame _
    exact q.scan_simulates hdeeper source none 0 hb.forall₂
  · rw [q.action_of_length_ne hlength, q.action_of_length_ne (hargs.length_eq ▸ hlength),
      hargs.length_eq]
    exact .ofSame _

end Quantifier

/-- Built-in functions are carried out alike on arguments that correspond. -/
theorem Function.IsBuiltin.simulates {function : Function} (h : function.IsBuiltin)
    (env : Environment) (hdeeper : Run.Deepens deeper) (registered : String → Bool)
    (name : String) (depth : Nat) (hargs : List.Forall₂ Value.Interchangeable args args') :
    Run.Simulates Session.SameCaches Eq
      (Run.perform env deeper (function.action registered ⟨name, depth, args⟩))
      (Run.perform env deeper (function.action registered ⟨name, depth, args'⟩)) := by
  obtain rfl | ⟨q, rfl⟩ := h
  · change Run.Simulates _ _ (Run.perform env deeper (regexMatchAction args))
      (Run.perform env deeper (regexMatchAction args'))
    rw [regexMatchAction_eq hargs]
    unfold regexMatchAction
    split
    · exact .ofSame _
    · split
      · exact (Run.search_simulates _ _).outcome.bind fun r r' hr => hr.eq ▸ .ofSame _
      · exact .ofSame _
  · exact q.action_simulates hdeeper hargs

theorem Run.call_interchangeable (hbuiltin : env.registry.IsBuiltin) (hdeeper : Deepens deeper)
    (depth : Nat) (name : String) {args args' : Run (List Value)}
    (hargs : Simulates Session.SameCaches (List.Forall₂ Value.Interchangeable) args args') :
    Simulates Session.SameCaches Value.Interchangeable (call env deeper depth name args)
      (call env deeper depth name args') := by
  rw [call, call]
  split
  · exact .throw _
  · next function hfunction =>
    -- The calls that are noted differ if the arguments do, but not the caches.
    refine hargs.bind fun values values' hvalues => (note_simulates _ _).bindEq fun _ => ?_
    have hsimulates := (hbuiltin name function hfunction).simulates env hdeeper
      (Fields.contains env.registry) name depth hvalues
    exact hsimulates.mono fun v v' hv => hv ▸ .refl v

namespace Expr

theorem evalWith_interchangeable (hbuiltin : env.registry.IsBuiltin) (hdeeper : Run.Deepens deeper)
    (depth : Nat) (e : Expr) {record record' : Record}
    (h : Value.Interchangeable (.record record) (.record record')) :
    Run.Simulates Session.SameCaches Value.Interchangeable (evalWith env deeper depth record e)
      (evalWith env deeper depth record' e) :=
  evalWith_resembles Value.isResemblance_interchangeable
    (Matching.apply_simulates env.alike_sameCaches)
    (fun name _ _ hargs => Run.call_interchangeable hbuiltin hdeeper depth name hargs) e
    fun name _ => h.lookup name

/-- With the built-in functions alone, an expression has values on records that differ
    in missing fields that differ in no more. -/
theorem evalAt_interchangeable (hbuiltin : env.registry.IsBuiltin) (levels : Nat) (e : Expr)
    {record record' : Record} (h : Value.Interchangeable (.record record) (.record record')) :
    Run.Simulates Session.SameCaches Value.Interchangeable (evalAt env levels e record)
      (evalAt env levels e record') := by
  induction levels generalizing e record record' with
  | zero =>
    rw [evalAt, evalAt]
    exact evalWith_interchangeable hbuiltin (fun _ _ _ _ => .throw _) _ e h
  | succ levels ih =>
    rw [evalAt, evalAt]
    exact evalWith_interchangeable hbuiltin (fun e _ _ h => ih e h) _ e h

end Expr

end RuleEngine
