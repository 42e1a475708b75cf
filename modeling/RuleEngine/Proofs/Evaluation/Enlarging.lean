import RuleEngine.Proofs.Evaluation.Builtin
import RuleEngine.Proofs.Evaluation.Invariants
import RuleEngine.Proofs.Parser.Acceptance
import RuleEngine.Proofs.Pattern.Limits

/-!
# Larger environments

What can be compiled and evaluated with some functions and within some limits can
be so with more functions and within larger limits, to the same value
(`Expr.eval_enlarged`). It need not fail alike: what failed may succeed. So two
evaluations are compared only where the first one succeeds (`Run.Refines`).

This holds of functions that do not make something of a failure: when what they
asked for fails, they fail (`Action.IsStrict`). And they may see neither how
deep they are called nor which other functions there are. So it is of the
built-in functions and of those that only compute from their arguments
(`Function.IsPlain`).
-/

namespace RuleEngine

/-! ### Limits -/

/-- What a configuration allows another allows too; the capacity of caches does not
    matter. -/
structure Config.AtMost (config config' : Config) : Prop where
  strict : config'.strictFunctions = true → config.strictFunctions = true
  maxDepth : config.maxDepth ≤ config'.maxDepth
  maxPatternLength : config.maxPatternLength ≤ config'.maxPatternLength
  regexSizeLimit : config.regexSizeLimit ≤ config'.regexSizeLimit

/-- An environment has the functions of another and allows what that allows. -/
structure Environment.AtMost (env env' : Environment) : Prop where
  registry : env.registry.Extends env'.registry
  config : env.config.AtMost env'.config

/-- A rule that can be compiled can be compiled in a larger environment, as the same
    tree. -/
theorem Compiled.ofSource_of_atMost {env env' : Environment} (h : env.AtMost env')
    {source : String} {rule : Compiled}
    (hrule : ofSource env.scope env.config.maxDepth source = .ok rule) :
    ∃ rule', ofSource env'.scope env'.config.maxDepth source = .ok rule' ∧ rule.Alike rule' := by
  obtain ⟨root, hparse, kind, hcheck, rfl⟩ := ofSource_eq_ok_iff.mp hrule
  have haccepts : env.scope.Accepts root.calls :=
    (Expr.exists_check_eq_ok_iff root).mp ⟨kind, hcheck⟩
  have haccepts' : env'.scope.Accepts root.calls := by
    intro hstrict name hname
    obtain ⟨known, hknown⟩ := Option.isSome_iff_exists.mp
      (haccepts (h.config.strict hstrict) name hname)
    exact Option.isSome_iff_exists.mpr
      ⟨known, (h.registry.scope true).returnKind? name known hknown⟩
  obtain ⟨kind', hcheck'⟩ := (Expr.exists_check_eq_ok_iff root).mpr haccepts'
  exact ⟨_, ofSource_eq_ok_iff.mpr ⟨root, parse_of_le h.config.maxDepth hparse, kind', hcheck',
    rfl⟩, rfl, rfl, rfl⟩

/-! ### Evaluations that succeed -/

namespace Run

variable {α β γ δ : Type} {S : Session → Session → Prop} {R : α → β → Prop}
  {T : γ → δ → Prop}

/-- From related sessions, where one evaluation succeeds another does, with related
    results, and leaves related sessions. -/
def Refines (S : Session → Session → Prop) (R : α → β → Prop) (m : Run α) (m' : Run β) : Prop :=
  ∀ s s', S s s' → ∀ a, (m.run s).1 = .ok a →
    ∃ b, (m'.run s').1 = .ok b ∧ R a b ∧ S (m.run s).2 (m'.run s').2

theorem Refines.pure {a : α} {b : β} (h : R a b) : Refines S R (pure a) (pure b) :=
  fun _ _ hs _ ha => ⟨b, rfl, Except.ok.inj ha ▸ h, hs⟩

theorem Refines.ofSame (x : Except Error α) : Refines S Eq (Run.ofResult x) (Run.ofResult x) :=
  fun _ _ hs a ha => ⟨a, ha, rfl, hs⟩

/-- An evaluation that only fails may be replaced by any other. -/
theorem Refines.throw (e : Error) (m' : Run β) : Refines S R (throw e) m' :=
  nofun

theorem Refines.bind {m : Run α} {m' : Run β} {f : α → Run γ} {f' : β → Run δ}
    (h : Refines S R m m') (hf : ∀ a b, R a b → Refines S T (f a) (f' b)) :
    Refines S T (m >>= f) (m' >>= f') := by
  intro s s' hs c hc
  rcases hm : m.run s with ⟨x, t⟩
  rw [run_bind, hm] at hc
  cases x with
  | error e => cases hc
  | ok a =>
    obtain ⟨b, hb, hab, ht⟩ := h s s' hs a (congrArg Prod.fst hm)
    rw [hm] at ht
    rw [run_bind_ok hm, run_bind_ok (Prod.ext hb rfl)]
    exact hf a b hab _ _ ht c hc

/-- Of a result that is the same on both sides the rest is shown once. -/
theorem Refines.bindEq {m m' : Run α} {f : α → Run γ} {f' : α → Run δ}
    (h : Refines S Eq m m') (hf : ∀ a, Refines S T (f a) (f' a)) :
    Refines S T (m >>= f) (m' >>= f') :=
  h.bind fun a _ hab => hab ▸ hf a

/-- An outcome that is passed on: if the first evaluation fails, nothing may come of it
    but a failure. -/
theorem Refines.outcome {m : Run α} {m' : Run β} {next : Except Error α → Run γ}
    {next' : Except Error β → Run δ} (h : Refines S R m m')
    (hok : ∀ a b, R a b → Refines S T (next (.ok a)) (next' (.ok b)))
    (herror : ∀ e, Returns (fun _ => False) (next (.error e))) :
    Refines S T (outcome m >>= next) (outcome m' >>= next') := by
  intro s s' hs c hc
  rw [run_bind_ok (run_outcome m s)] at hc ⊢
  rw [run_bind_ok (run_outcome m' s')]
  cases hm : (m.run s).1 with
  | error e =>
    rw [hm] at hc
    exact (herror e _ c hc).elim
  | ok a =>
    obtain ⟨b, hb, hab, ht⟩ := h s s' hs a hm
    rw [hm] at hc
    rw [hb]
    exact hok a b hab _ _ ht c hc

end Run

/-! ### Functions -/

/-- A function only fails if what it asks for fails. -/
inductive Action.IsStrict : Action → Prop
  | finish (result : Except Error Value) : IsStrict (.finish result)
  | compile (source : String) {next : Except Error Compiled → Action}
      (hok : ∀ rule, IsStrict (next (.ok rule)))
      (herror : ∀ e, (next (.error e)).Finishes fun _ => False) : IsStrict (.compile source next)
  | evaluate (rule : Compiled) (record : Record) {next : Except Error Value → Action}
      (hok : ∀ value, IsStrict (next (.ok value)))
      (herror : ∀ e, (next (.error e)).Finishes fun _ => False) :
      IsStrict (.evaluate rule record next)
  | search (pattern subject : String) {next : Except Error Bool → Action}
      (hok : ∀ found, IsStrict (next (.ok found)))
      (herror : ∀ e, (next (.error e)).Finishes fun _ => False) :
      IsStrict (.search pattern subject next)

theorem Action.finishes_fail (e : Error) : (fail e).Finishes fun _ => False :=
  .finish nofun

theorem regexMatchAction_isStrict (args : List Value) : (regexMatchAction args).IsStrict := by
  unfold regexMatchAction
  split
  · exact .finish _
  · split
    · exact .search _ _ (fun _ => .finish _) fun e => Action.finishes_fail e
    · exact .finish _

namespace Quantifier

variable (q : Quantifier)

theorem scan_isStrict (source : String) (items : List Value) (index : Nat)
    (compiled : Option Compiled) : (q.scan source compiled index items).IsStrict := by
  induction items generalizing index compiled with
  | nil => exact .finish _
  | cons item rest ih =>
    cases item with
    | record fields =>
      have hrecord (rule : Compiled) :
          (q.scan source (some rule) index (.record fields :: rest)).IsStrict := by
        refine .evaluate rule fields (fun value => ?_) fun e => Action.finishes_fail _
        split
        · exact .finish _
        · split
          · exact .finish _
          · exact ih (index + 1) (some rule)
      cases compiled with
      | some rule => exact hrecord rule
      | none => exact .compile source hrecord Action.finishes_fail
    | _ => exact .finish _

theorem action_isStrict (args : List Value) : (q.action args).IsStrict := by
  unfold action
  split
  · exact q.scan_isStrict _ _ _ _
  all_goals exact .finish _

end Quantifier

/-- A function only computes from its arguments. -/
def Function.IsClosure (function : Function) : Prop :=
  ∃ result : List Value → Except Error Value,
    ∀ registered call, function.action registered call = .finish (result call.args)

/-- A function is built in, or only computes from its arguments. -/
def Function.IsPlain (function : Function) : Prop :=
  function.IsBuiltin ∨ function.IsClosure

/-- All functions of a registry are built in or only compute from their arguments. -/
def Registry.IsPlain (registry : Registry) : Prop :=
  ∀ name function, Fields.get? registry name = some function → function.IsPlain

namespace Function

variable {function : Function}

/-- Such functions do the same however deep they are called, and whatever other
    functions there are. -/
theorem IsPlain.alike (h : function.IsPlain) (registered registered' : String → Bool)
    {call call' : Call} (hargs : call'.args = call.args) :
    Action.Alike Compiled.Alike (function.action registered call)
      (function.action registered' call') := by
  obtain (rfl | ⟨q, rfl⟩) | ⟨result, hresult⟩ := h
  · change Action.Alike _ (regexMatchAction call.args) (regexMatchAction call'.args)
    rw [hargs]
    exact regexMatchAction_alike call.args
  · change Action.Alike _ (q.action call.args) (q.action call'.args)
    rw [hargs]
    exact q.action_alike call.args
  · rw [hresult, hresult, hargs]
    exact .finish _

theorem IsPlain.isStrict (h : function.IsPlain) (registered : String → Bool) (call : Call) :
    (function.action registered call).IsStrict := by
  obtain (rfl | ⟨q, rfl⟩) | ⟨result, hresult⟩ := h
  · exact regexMatchAction_isStrict call.args
  · exact q.action_isStrict call.args
  · rw [hresult]
    exact .finish _

end Function

/-! ### Environments -/

/-- Two sessions in which the caches are sound, each for its own environment. -/
structure Session.Sound (env env' : Environment) (s s' : Session) : Prop where
  left : s.caches.IsSound env
  right : s'.caches.IsSound env'

variable {env env' : Environment} {deeper deeper' : Expr → Record → Run Value}
  {record : Record} {depth depth' : Nat}

namespace Run

theorem compile_refines (h : env.AtMost env') (source : String) :
    Refines (Session.Sound env env') Compiled.Alike (compile env source)
      (compile env' source) := by
  intro s s' hs rule hrule
  obtain ⟨hagree, hsound⟩ := hs.left.expression source
  obtain ⟨hagree', hsound'⟩ := hs.right.expression source
  obtain ⟨made, hmade, halike⟩ := hagree.exists_of_left hrule
  obtain ⟨made', hmade', hmades⟩ := Compiled.ofSource_of_atMost h hmade
  obtain ⟨rule', hrule', halike'⟩ := hagree'.exists_of_right hmade'
  exact ⟨rule', hrule', halike.trans (hmades.trans halike'.symm), hsound, hsound'⟩

theorem pattern_refines (h : env.AtMost env') (text : String) :
    Refines (Session.Sound env env') Eq (pattern env text) (pattern env' text) := by
  intro s s' hs found hfound
  obtain ⟨hagree, hsound⟩ := hs.left.pattern text
  obtain ⟨hagree', hsound'⟩ := hs.right.pattern text
  have hbuild : Pattern.build env.config text = .ok found := hagree.eq.symm.trans hfound
  have hbuild' := Pattern.build_of_le h.config.maxPatternLength h.config.regexSizeLimit hbuild
  exact ⟨found, hagree'.eq.trans hbuild', rfl, hsound, hsound'⟩

theorem search_refines (h : env.AtMost env') (text subject : String) :
    Refines (Session.Sound env env') Eq (search env text subject) (search env' text subject) :=
  (pattern_refines h text).bindEq fun _ => .pure rfl

/-- Where an action that makes nothing of failures is carried out with success, it is
    so in a larger environment. The two may differ in what is known of the kinds of
    rules. -/
theorem perform_refines (h : env.AtMost env')
    (hdeeper : ∀ e record, Refines (Session.Sound env env') Eq (deeper e record)
      (deeper' e record)) {a a' : Action} (ha : a.Alike Compiled.Alike a') (hstrict : a.IsStrict) :
    Refines (Session.Sound env env') Eq (perform env deeper a) (perform env' deeper' a') := by
  induction ha with
  | finish result =>
    rw [perform, perform]
    exact .ofSame result
  | compile source _ ih =>
    cases hstrict with
    | compile _ hok herror =>
      rw [perform, perform]
      exact (compile_refines h source).outcome
        (fun rule rule' hrule => ih _ _ (.ok hrule) (hok rule))
        fun e => perform_returns (herror e) env deeper
  | evaluate hrule record _ ih =>
    cases hstrict with
    | evaluate _ _ hok herror =>
      rw [perform, perform, hrule.root]
      exact (hdeeper _ record).outcome (fun v v' hv => hv ▸ ih _ (hok v))
        fun e => perform_returns (herror e) env deeper
  | search text subject _ ih =>
    cases hstrict with
    | search _ _ hok herror =>
      rw [perform, perform]
      exact (search_refines h text subject).outcome (fun b b' hb => hb ▸ ih _ (hok b))
        fun e => perform_returns (herror e) env deeper

end Run

theorem Matching.apply_refines (h : env.AtMost env') (op : Matching) (a b : Value) :
    Run.Refines (Session.Sound env env') Eq (op.apply env a b) (op.apply env' a b) := by
  unfold Matching.apply
  split
  · exact .pure rfl
  · exact (Run.search_refines h _ _).bindEq fun found => .pure rfl
  · exact .throw _ _

/-- What succeeds alike may be put together. -/
theorem Run.isCongruence_refines (S : Session → Session → Prop) :
    IsCongruence fun m m' => Refines S Eq m m' where
  pure _ := .pure rfl
  ofResult result _ := .ofSame result
  bind := .bindEq

namespace Expr

/-- Where an expression has a value it has the same in a larger environment. -/
theorem evalWith_refines (h : env.AtMost env') (hplain : env.registry.IsPlain)
    (hdeeper : ∀ e record, Run.Refines (Session.Sound env env') Eq (deeper e record)
      (deeper' e record)) (e : Expr) :
    Run.Refines (Session.Sound env env') Eq (evalWith env deeper depth record e)
      (evalWith env' deeper' depth' record e) := by
  refine evalWith_congr (Run.isCongruence_refines _) (Matching.apply_refines h) e ?_
  intro name _ args args' hargs
  rw [Run.call]
  cases hname : Fields.get? env.registry name with
  | none => exact .throw _ _
  | some function =>
    have hfunction := hplain name function hname
    rw [Run.call, h.registry name function hname]
    refine hargs.bindEq fun values => ?_
    have hnote : Run.Refines (Session.Sound env env') Eq (Run.note ⟨name, depth, values⟩)
        (Run.note ⟨name, depth', values⟩) :=
      fun s s' hs _ _ => ⟨(), rfl, rfl, hs.left, hs.right⟩
    exact hnote.bindEq fun _ => Run.perform_refines h hdeeper (hfunction.alike _ _ rfl)
      (hfunction.isStrict _ _)

/-- The same with so many levels left, or more in the larger environment. -/
theorem evalAt_refines (h : env.AtMost env') (hplain : env.registry.IsPlain) {levels levels' : Nat}
    (hlevels : levels ≤ levels') (e : Expr) (record : Record) :
    Run.Refines (Session.Sound env env') Eq (evalAt env levels e record)
      (evalAt env' levels' e record) := by
  induction levels generalizing levels' e record with
  | zero =>
    rw [evalAt_eq env']
    exact evalWith_refines h hplain (fun _ _ => .throw _ _) e
  | succ levels ih =>
    obtain ⟨more, rfl⟩ := Nat.exists_eq_add_of_le' hlevels
    exact evalWith_refines h hplain (fun e record => ih (Nat.le_add_left _ _) e record) e

/-- What has a value in an environment has the same in a larger one. -/
theorem eval_enlarged (h : env.AtMost env') (hplain : env.registry.IsPlain) (e : Expr)
    (record : Record) :
    Run.Refines (Session.Sound env env') Eq (eval env e record) (eval env' e record) :=
  evalAt_refines h hplain h.config.maxDepth e record

end Expr

end RuleEngine
