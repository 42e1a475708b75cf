import RuleEngine.Eval
import RuleEngine.Proofs.Runs

/-!
# Relations between evaluations of a tree

A relation between evaluations may be one that is kept when evaluations are put
together (`Run.IsCongruence`). Such a relation holds between the evaluations of a
tree in two environments if it holds between what the environments add to the
tree: matching patterns and calling functions (`Expr.evalWith_congr`). The
induction over trees is made here once, for relations between two evaluations
and, by taking no notice of the second, for properties of one.

Operators add nothing. They may fail, but never for the name of a function.
-/

namespace RuleEngine

/-! ### Truth -/

/-- The truth that a value has as a condition; missing is false. -/
def Value.HasTruth (v : Value) (b : Bool) : Prop :=
  v = .boolean b ∨ v = .missing ∧ b = false

theorem Value.truth_eq_ok_iff {v : Value} {operation : Operation} {b : Bool} :
    v.truth operation = .ok b ↔ v.HasTruth b := by
  cases v <;> simp [truth, HasTruth, eq_comm]

theorem Value.truth_eq_error_iff {v : Value} {operation : Operation} {e : Error} :
    v.truth operation = .error e ↔
      e = .typeMismatch operation v.kind none ∧ v.kind ≠ .boolean ∧ v.kind ≠ .missing := by
  cases v <;> simp [truth, kind, eq_comm]

/-! ### Failures of operators -/

theorem Value.kind_of_truth_eq_error {v : Value} {operation : Operation} {e : Error}
    (h : v.truth operation = .error e) : e.kind = .typeMismatch := by
  obtain ⟨rfl, _⟩ := truth_eq_error_iff.mp h
  rfl

theorem UnaryOp.kind_of_apply_eq_error {op : UnaryOp} {v : Value} {e : Error}
    (h : op.apply v = .error e) : e.kind ≠ .unknownFunction := by
  unfold apply at h
  split at h
  any_goals cases h
  · split at h <;> cases h
    exact nofun
  · exact nofun

theorem Arithmetic.kind_of_apply_eq_error {op : Arithmetic} {a b : Value} {e : Error}
    (h : op.apply a b = .error e) : e.kind ≠ .unknownFunction := by
  unfold apply at h
  split at h
  · cases h
  · cases h
  · rw [applyIntegers] at h
    split at h
    · cases h
      exact nofun
    · split at h <;> cases h
      exact nofun
  · split at h <;> cases h
    exact nofun
  · rw [applyNumbers] at h
    split at h
    · split at h <;> cases h
      exact nofun
    · cases h
      exact nofun

theorem Comparison.kind_of_apply_eq_error {op : Comparison} {a b : Value} {e : Error}
    (h : op.apply a b = .error e) : e.kind ≠ .unknownFunction := by
  unfold apply at h
  split at h
  any_goals cases h
  · split at h <;> cases h
    exact nofun
  · split at h <;> cases h
    exact nofun

/-! ### Trees -/

/-- A call of a function, after the evaluation of its arguments. -/
def Run.call (env : Environment) (deeper : Expr → Record → Run Value) (depth : Nat)
    (name : String) (args : Run (List Value)) : Run Value :=
  match Fields.get? env.registry name with
  | none => throw (.unknownFunction name)
  | some function => do
    let values ← args
    note ⟨name, depth, values⟩
    perform env deeper (function.action (Fields.contains env.registry) ⟨name, depth, values⟩)

/-- A relation between evaluations is kept when they are put together, and operators
    stand in it to themselves. -/
structure Run.IsCongruence (R : {α : Type} → Run α → Run α → Prop) : Prop where
  pure : ∀ {α : Type} (a : α), R (pure a) (pure a)
  ofResult : ∀ {α : Type} (result : Except Error α),
    (∀ e, result = .error e → e.kind ≠ .unknownFunction) → R (ofResult result) (ofResult result)
  bind : ∀ {α β : Type} {m m' : Run α} {f f' : α → Run β}, R m m' → (∀ a, R (f a) (f' a)) →
    R (m >>= f) (m' >>= f')

variable {R : {α : Type} → Run α → Run α → Prop} {env env' : Environment}
  {deeper deeper' : Expr → Record → Run Value} {depth depth' : Nat} {record : Record}

theorem Run.IsCongruence.truth (h : IsCongruence R) (v : Value) (operation : Operation) :
    R (Run.ofResult (v.truth operation)) (Run.ofResult (v.truth operation)) := by
  refine h.ofResult _ fun e he => ?_
  rw [Value.kind_of_truth_eq_error he]
  exact nofun

namespace Expr

mutual

/-- A relation that is kept when evaluations are put together holds between the
    evaluations of a tree in two environments, if it holds between the matchings and
    between the calls in the tree. -/
theorem evalWith_congr (h : Run.IsCongruence R)
    (hmatching : ∀ (op : Matching) a b, R (op.apply env a b) (op.apply env' a b)) :
    (e : Expr) →
    (∀ name ∈ e.calls, ∀ args args', R args args' →
      R (Run.call env deeper depth name args) (Run.call env' deeper' depth' name args')) →
    R (evalWith env deeper depth record e) (evalWith env' deeper' depth' record e)
  | .literal value, _ => by
    rw [evalWith, evalWith]
    exact h.pure value
  | .field name, _ => by
    rw [evalWith, evalWith]
    exact h.pure _
  | .binary op left right, hcalls => by
    obtain ⟨hleft, hright⟩ := List.forall_mem_append.mp hcalls
    have ihleft := evalWith_congr h hmatching left hleft
    have ihright := evalWith_congr h hmatching right hright
    cases op with
    | logical op =>
      rw [evalWith, evalWith]
      refine h.bind ihleft fun a => h.bind (h.truth a _) fun x => ?_
      -- The left operand is the same on both sides, and so is whether it decides.
      split
      · exact h.pure _
      · exact h.bind ihright fun b => h.bind (h.truth b _) fun y => h.pure _
    | arithmetic op =>
      rw [evalWith, evalWith]
      refine h.bind ihleft fun a => h.bind ihright fun b => h.ofResult _ fun e he => ?_
      exact Arithmetic.kind_of_apply_eq_error he
    | comparison op =>
      rw [evalWith, evalWith]
      refine h.bind ihleft fun a => h.bind ihright fun b => h.ofResult _ fun e he => ?_
      exact Comparison.kind_of_apply_eq_error he
    | matching op =>
      rw [evalWith, evalWith]
      exact h.bind ihleft fun a => h.bind ihright fun b => hmatching op a b
  | .unary op operand, hcalls => by
    rw [evalWith, evalWith]
    refine h.bind (evalWith_congr h hmatching operand hcalls) fun a => h.ofResult _ fun e he => ?_
    exact UnaryOp.kind_of_apply_eq_error he
  | .call name args, hcalls => by
    obtain ⟨hargs, hname⟩ := List.forall_mem_append.mp hcalls
    rw [evalWith, evalWith]
    exact hname name List.mem_cons_self _ _ (evalAllWith_congr h hmatching args hargs)

theorem evalAllWith_congr (h : Run.IsCongruence R)
    (hmatching : ∀ (op : Matching) a b, R (op.apply env a b) (op.apply env' a b)) :
    (es : List Expr) →
    (∀ name ∈ callsOfAll es, ∀ args args', R args args' →
      R (Run.call env deeper depth name args) (Run.call env' deeper' depth' name args')) →
    R (evalAllWith env deeper depth record es) (evalAllWith env' deeper' depth' record es)
  | [], _ => by
    rw [evalAllWith, evalAllWith]
    exact h.pure _
  | e :: rest, hcalls => by
    obtain ⟨hfirst, hrest⟩ := List.forall_mem_append.mp hcalls
    rw [evalAllWith, evalAllWith]
    refine h.bind (evalWith_congr h hmatching e hfirst) fun value => ?_
    exact h.bind (evalAllWith_congr h hmatching rest hrest) fun values => h.pure _

end

end Expr

end RuleEngine
