import RuleEngine.Proofs.Evaluation.Caching
import RuleEngine.Proofs.Evaluation.Congruence
import RuleEngine.Proofs.Evaluation.Returns

/-!
# What evaluations keep

An evaluation keeps a property of sessions if the session that it leaves has it
whenever the one before had it, also when it fails; and it may be known to fail
only in certain ways, given the session that it leaves (`Run.Keeps`).

Evaluating a tree keeps what the calls in it and the patterns in it keep
(`Expr.evalWith_keeps`). Where nothing is said of failures, it is enough that
the property stays when a rule is compiled, a pattern is built or a call is noted
(`Expr.evalAt_preserves`).
-/

namespace RuleEngine

namespace Run

variable {α β : Type} {P : Session → Prop} {E : Error → Session → Prop}

/-- From every session with a property, an evaluation leaves one with it, and
    fails only in certain ways. -/
def Keeps (P : Session → Prop) (E : Error → Session → Prop) (m : Run α) : Prop :=
  ∀ s, P s → P (m.run s).2 ∧ ∀ e, (m.run s).1 = .error e → E e (m.run s).2

theorem Keeps.pure (a : α) : Keeps P E (pure a) :=
  fun _ hs => ⟨hs, nofun⟩

theorem Keeps.ofResult {result : Except Error α}
    (h : ∀ e, result = .error e → ∀ s, P s → E e s) : Keeps P E (ofResult result) :=
  fun s hs => ⟨hs, fun e he => h e he s hs⟩

theorem Keeps.throw {e : Error} (h : ∀ s, P s → E e s) : Keeps P E (throw e : Run α) :=
  fun s hs => ⟨hs, fun _ he => Except.error.inj he ▸ h s hs⟩

theorem Keeps.bind {m : Run α} {f : α → Run β} (h : Keeps P E m)
    (hf : ∀ a, Keeps P E (f a)) : Keeps P E (m >>= f) := by
  intro s hs
  obtain ⟨hs', hfails⟩ := h s hs
  rw [run_bind]
  rcases hm : m.run s with ⟨result, s'⟩
  rw [hm] at hs' hfails
  cases result with
  | ok a => exact hf a s' hs'
  | error e => exact ⟨hs', fun _ he => Except.error.inj he ▸ hfails e rfl⟩

theorem run_outcome (m : Run α) (s : Session) :
    (outcome m).run s = (.ok (m.run s).1, (m.run s).2) := rfl

/-! ### Actions -/

variable {env : Environment} {deeper : Expr → Record → Run Value}

theorem finish_keeps {result : Except Error Value}
    (h : ∀ e, result = .error e → ∀ s, P s → E e s) :
    Keeps P E (perform env deeper (.finish result)) := by
  rw [perform]
  exact .ofResult h

theorem done_keeps (value : Value) : Keeps P E (perform env deeper (.done value)) :=
  finish_keeps nofun

theorem fail_keeps {e : Error} (h : ∀ s, P s → E e s) :
    Keeps P E (perform env deeper (.fail e)) :=
  finish_keeps fun _ he => Except.error.inj he ▸ h

variable (env deeper) (s : Session)

/-- A function that has a rule compiled goes on with what came of it. -/
theorem run_perform_compile (source : String) (next : Except Error Compiled → Action) :
    (perform env deeper (.compile source next)).run s =
      (perform env deeper (next ((compile env source).run s).1)).run
        ((compile env source).run s).2 := by
  rw [perform, run_bind, run_outcome]

/-- A function that has a rule evaluated goes on with what came of it. -/
theorem run_perform_evaluate (rule : Compiled) (record : Record)
    (next : Except Error Value → Action) :
    (perform env deeper (.evaluate rule record next)).run s =
      (perform env deeper (next ((deeper rule.root record).run s).1)).run
        ((deeper rule.root record).run s).2 := by
  rw [perform, run_bind, run_outcome]

/-- A function that has a pattern searched goes on with what came of it. -/
theorem run_perform_search (text subject : String) (next : Except Error Bool → Action) :
    (perform env deeper (.search text subject next)).run s =
      (perform env deeper (next ((search env text subject).run s).1)).run
        ((search env text subject).run s).2 := by
  rw [perform, run_bind, run_outcome]

end Run

/-! ### Failures of patterns -/

/-- What fails to be fetched could not be made. -/
theorem Cache.eq_error_of_fetch {α : Type} {cache : Cache α} {make : String → Except Error α}
    {text : String} {e : Error} (h : (cache.fetch make text).1 = .error e) :
    make text = .error e := by
  rw [fetch] at h
  split at h
  · cases h
  · split at h
    · next hmake => rw [hmake, Except.error.inj h]
    · cases h

theorem Pattern.kind_of_build_eq_error {config : Config} {text : String} {e : Error}
    (h : build config text = .error e) : e.kind = .invalidPattern := by
  rw [build] at h
  split at h
  · cases h
    rfl
  · cases hpattern : ofText? text config.regexSizeLimit with
    | error problem =>
      rw [hpattern] at h
      cases h
      rfl
    | ok pattern =>
      rw [hpattern] at h
      cases h

/-! ### Trees -/

variable {P : Session → Prop} {E : Error → Session → Prop} {env : Environment}
  {deeper : Expr → Record → Run Value} {depth : Nat} {record : Record}

/-- Building a pattern keeps a property, and failures of operators are allowed. -/
structure Environment.KeepsIn (env : Environment) (P : Session → Prop)
    (E : Error → Session → Prop) : Prop where
  pattern : ∀ text s, P s → P ((Run.pattern env text).run s).2
  operator : ∀ e, e.kind ≠ .unknownFunction → ∀ s, P s → E e s

theorem Run.search_keeps (h : env.KeepsIn P E) (text subject : String) :
    Keeps P E (search env text subject) := by
  have hpattern : Keeps P E (pattern env text) := by
    intro s hs
    refine ⟨h.pattern text s hs, fun e he => h.operator e ?_ _ (h.pattern text s hs)⟩
    rw [Pattern.kind_of_build_eq_error (Cache.eq_error_of_fetch he)]
    exact nofun
  exact hpattern.bind fun _ => .pure _

theorem Matching.apply_keeps (h : env.KeepsIn P E) (op : Matching) (a b : Value) :
    Run.Keeps P E (op.apply env a b) := by
  unfold Matching.apply
  split
  · exact .pure _
  · exact (Run.search_keeps h _ _).bind fun _ => .pure _
  · exact .throw (h.operator _ nofun)

/-- What keeps a property may be put together, and operators fail as allowed. -/
theorem Run.isCongruence_keeps (h : env.KeepsIn P E) : IsCongruence fun m _ => Keeps P E m where
  pure := .pure
  ofResult _ hresult := .ofResult fun e he => h.operator e (hresult e he)
  bind := .bind

/-- Evaluating a tree keeps what the calls in it keep, and fails only as they do, as
    operators do, or since a function that it calls is not there. -/
theorem Expr.evalWith_keeps (h : env.KeepsIn P E)
    (hcall : ∀ name function, Fields.get? env.registry name = some function → ∀ values,
      Run.Keeps P E (do
        Run.note ⟨name, depth, values⟩
        Run.perform env deeper
          (function.action (Fields.contains env.registry) ⟨name, depth, values⟩)))
    (e : Expr)
    (hnames : ∀ name ∈ e.calls, Fields.get? env.registry name = none →
      ∀ s, P s → E (.unknownFunction name) s) :
    Run.Keeps P E (evalWith env deeper depth record e) := by
  -- The relation takes no notice of the second evaluation, so that is given here.
  refine @evalWith_congr _ env env deeper deeper depth depth record (Run.isCongruence_keeps h)
    (Matching.apply_keeps h) e ?_
  intro name hname args _ hargs
  rw [Run.call]
  split
  · next hnone => exact .throw (hnames name hname hnone)
  · next function hfunction => exact hargs.bind fun values => hcall name function hfunction values

/-! ### Properties that stay -/

/-- An evaluation keeps a property of sessions, in whatever way it may fail. -/
abbrev Run.Preserves {α : Type} (P : Session → Prop) (m : Run α) : Prop :=
  Keeps P (fun _ _ => True) m

/-- A property of sessions stays when a rule is compiled or a pattern is built. -/
structure Environment.Preserves (env : Environment) (P : Session → Prop) : Prop where
  compile : ∀ source s, P s → P ((Run.compile env source).run s).2
  pattern : ∀ text s, P s → P ((Run.pattern env text).run s).2

theorem Environment.Preserves.keepsIn (h : env.Preserves P) : env.KeepsIn P fun _ _ => True :=
  ⟨h.pattern, fun _ _ _ _ => trivial⟩

theorem Run.perform_preserves (h : env.Preserves P)
    (hdeeper : ∀ e record, Preserves P (deeper e record)) (action : Action) :
    Preserves P (perform env deeper action) := by
  induction action with
  | finish result =>
    rw [perform]
    exact .ofResult fun _ _ _ _ => trivial
  | compile source next ih =>
    intro s hs
    rw [run_perform_compile]
    exact ih _ _ (h.compile source s hs)
  | evaluate rule record next ih =>
    intro s hs
    rw [run_perform_evaluate]
    exact ih _ _ (hdeeper rule.root record s hs).1
  | search text subject next ih =>
    intro s hs
    rw [run_perform_search]
    exact ih _ _ (search_keeps h.keepsIn text subject s hs).1

namespace Expr

/-- Evaluating a tree at a depth preserves what noting its calls preserves. -/
theorem evalWith_preserves (h : env.Preserves P)
    (hdeeper : ∀ e record, Run.Preserves P (deeper e record))
    (hnote : ∀ call s, call.depth = depth → P s → P ((Run.note call).run s).2) (e : Expr) :
    Run.Preserves P (evalWith env deeper depth record e) := by
  refine evalWith_keeps h.keepsIn (fun name function _ values => ?_) e fun _ _ _ _ _ => trivial
  have hcall : Run.Preserves P (Run.note ⟨name, depth, values⟩) :=
    fun s hs => ⟨hnote _ s rfl hs, fun _ _ => trivial⟩
  exact hcall.bind fun _ => Run.perform_preserves h hdeeper _

/-- Evaluating a tree preserves what noting a call at a depth within the limit
    preserves. -/
theorem evalAt_preserves (h : env.Preserves P)
    (hnote : ∀ call s, call.depth ≤ env.config.maxDepth → P s → P ((Run.note call).run s).2)
    (levels : Nat) (e : Expr) (record : Record) :
    Run.Preserves P (evalAt env levels e record) := by
  induction levels generalizing e record with
  | zero =>
    have hthrow : ∀ (e : Expr) (record : Record),
        Run.Preserves P (throw (.recursionLimit env.config.maxDepth) : Run Value) :=
      fun _ _ => .throw fun _ _ => trivial
    exact evalWith_preserves h hthrow (fun call s hdepth => hnote call s (hdepth ▸ Nat.le_refl _)) e
  | succ levels ih =>
    exact evalWith_preserves h ih (fun call s hdepth => hnote call s (hdepth ▸ Nat.sub_le _ _)) e

/-- The same of what functions have evaluated. -/
theorem evalBelow_preserves (h : env.Preserves P)
    (hnote : ∀ call s, call.depth ≤ env.config.maxDepth → P s → P ((Run.note call).run s).2)
    (levels : Nat) (e : Expr) (record : Record) :
    Run.Preserves P (evalBelow env levels e record) := by
  cases levels with
  | zero => exact .throw fun _ _ => trivial
  | succ levels => exact evalAt_preserves h hnote levels e record

end Expr

/-- Evaluation leaves caches that are sound, whatever the functions do. -/
theorem Environment.preserves_isSound (env : Environment) :
    env.Preserves (·.caches.IsSound env) :=
  ⟨fun source _ h => (h.expression source).2, fun text _ h => (h.pattern text).2⟩

theorem Expr.isSound_eval {s : Session} (h : s.caches.IsSound env) (e : Expr) (record : Record) :
    ((eval env e record).run s).2.caches.IsSound env :=
  (evalAt_preserves env.preserves_isSound (fun _ _ _ h => h) _ e record s h).1

end RuleEngine
