import RuleEngine.Proofs.Cache.Contents
import RuleEngine.Proofs.Evaluation.Invariants

/-!
# What caches answer

Asking a cache for one text does not change what it answers to another
(`Cache.fetch_fetch`), whatever is in it. So the caches of a session answer after
an evaluation as they did before it, and an evaluation comes to the same in two
sessions whose caches answer the same (`Session.AnswersAlike`). Nothing is asked of
the caches here: they may hold rules that would not be compiled now.
-/

namespace RuleEngine

/-! ### Caches -/

namespace Cache

variable {α : Type} (cache : Cache α) (make : String → Except Error α) (text other : String)

/-- What is stored is answered, and otherwise what is made. -/
theorem fetch_fst :
    (cache.fetch make text).1 = ((cache.get? text).map Except.ok).getD (make text) := by
  rw [fetch]
  cases hget : cache.get? text with
  | some a => rfl
  | none =>
    cases make text with
    | error e => rfl
    | ok a => exact congrArg (fun kept => Except.ok kept.1) (insert_of_none hget a)

/-- A result that is stored is found under its own text and no other. -/
theorem get?_insert_of_none {a : α} (h : cache.get? text = none) :
    (cache.insert text a).2.get? other = cache.get? other ∨
      text = other ∧ (cache.insert text a).2.get? other = some a := by
  rw [insert_of_none h]
  dsimp only
  split
  · by_cases heq : text = other
    · subst heq
      refine .inr ⟨rfl, ?_⟩
      rw [get?, Option.map_eq_none_iff] at h
      simp [get?, List.find?_append, h]
    · left
      simp [get?, List.find?_append, heq]
  · exact .inl rfl

/-- Asking for a text does not change what is answered to another. -/
theorem fetch_fetch :
    ((cache.fetch make text).2.fetch make other).1 = (cache.fetch make other).1 := by
  rw [fetch_fst, fetch_fst, fetch]
  cases hget : cache.get? text with
  | some a => rfl
  | none =>
    cases hmake : make text with
    | error e => rfl
    | ok a =>
      dsimp only
      rcases get?_insert_of_none (a := a) cache text other hget with hsame | ⟨rfl, hstored⟩
      · rw [hsame]
      · rw [hstored, hget, hmake]
        rfl

end Cache

/-! ### Sessions -/

/-- The caches of two sessions answer the same, whatever they are asked for. -/
structure Session.AnswersAlike (env : Environment) (s s' : Session) : Prop where
  compile : ∀ source, ((Run.compile env source).run s').1 = ((Run.compile env source).run s).1
  pattern : ∀ text, ((Run.pattern env text).run s').1 = ((Run.pattern env text).run s).1

namespace Session.AnswersAlike

variable {env : Environment} {s s' s'' : Session}

theorem refl (env : Environment) (s : Session) : s.AnswersAlike env s :=
  ⟨fun _ => rfl, fun _ => rfl⟩

theorem symm (h : s.AnswersAlike env s') : s'.AnswersAlike env s :=
  ⟨fun source => (h.compile source).symm, fun text => (h.pattern text).symm⟩

theorem trans (h : s.AnswersAlike env s') (h' : s'.AnswersAlike env s'') :
    s.AnswersAlike env s'' :=
  ⟨fun source => (h'.compile source).trans (h.compile source),
    fun text => (h'.pattern text).trans (h.pattern text)⟩

/-- The journal makes no difference. -/
theorem note (call : Call) (s : Session) :
    s.AnswersAlike env ((Run.note call).run s).2 :=
  ⟨fun _ => rfl, fun _ => rfl⟩

theorem compiled (source : String) (s : Session) :
    s.AnswersAlike env ((Run.compile env source).run s).2 :=
  ⟨fun other => Cache.fetch_fetch s.caches.expressions _ source other, fun _ => rfl⟩

theorem built (text : String) (s : Session) :
    s.AnswersAlike env ((Run.pattern env text).run s).2 :=
  ⟨fun _ => rfl, fun other => Cache.fetch_fetch s.caches.patterns _ text other⟩

/-- Sessions that answer alike do so after either has been asked for something. -/
theorem of_left_right {t t' : Session} (h : s.AnswersAlike env s') (hs : s.AnswersAlike env t)
    (hs' : s'.AnswersAlike env t') : t.AnswersAlike env t' :=
  hs.symm.trans (h.trans hs')

end Session.AnswersAlike

/-! ### Evaluations -/

namespace Environment

variable (env : Environment)

/-- Sessions that answer alike are not told apart. -/
theorem alike_answersAlike : env.Alike (Session.AnswersAlike env) Eq env := by
  refine env.alike_of_simulates ?note ?compile ?search
  case note =>
    exact fun call s s' hs => ⟨.ok rfl, hs.of_left_right (.note call s) (.note call s')⟩
  case compile =>
    intro source s s' hs
    exact ⟨hs.compile source ▸ .refl (fun _ => rfl) _,
      hs.of_left_right (.compiled source s) (.compiled source s')⟩
  case search =>
    intro text subject
    have hpattern : Run.Simulates (Session.AnswersAlike env) Eq (Run.pattern env text)
        (Run.pattern env text) :=
      fun s s' hs => ⟨hs.pattern text ▸ .refl (fun _ => rfl) _,
        hs.of_left_right (.built text s) (.built text s')⟩
    exact hpattern.bindEq fun _ => .pure rfl

theorem preserves_answersAlike (s : Session) : env.Preserves (Session.AnswersAlike env s) :=
  ⟨fun source _ h => h.trans (.compiled source _), fun text _ h => h.trans (.built text _)⟩

end Environment

namespace Expr

variable (env : Environment) (levels : Nat) (e : Expr) (record : Record)

/-- What functions have evaluated comes to the same in sessions that answer alike. -/
theorem evalBelow_fst_eq {s s' : Session} (h : s.AnswersAlike env s') :
    ((evalBelow env levels e record).run s').1 = ((evalBelow env levels e record).run s).1 := by
  cases levels with
  | zero => rfl
  | succ levels =>
    have hsimulates : Run.Simulates (Session.AnswersAlike env) Eq (evalAt env levels e record)
        (evalAt env levels e record) :=
      evalAt_simulates env.alike_answersAlike levels e fun _ _ => rfl
    exact (hsimulates s s' h).1.eq.symm

/-- It leaves a session that answers as the one before. -/
theorem answersAlike_evalBelow (s : Session) :
    s.AnswersAlike env ((evalBelow env levels e record).run s).2 :=
  (evalBelow_preserves (env.preserves_answersAlike s)
    (fun call _ _ h => h.trans (.note call _)) levels e record s (.refl env s)).1

end Expr

end RuleEngine
