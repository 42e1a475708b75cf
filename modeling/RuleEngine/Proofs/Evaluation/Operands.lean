import RuleEngine.Proofs.Evaluation.Depth

/-!
# Values of operands

An operator that needs both its operands is applied to their values, in the session
that evaluating them one after the other has left (`Expr.run_binary`). Where an
operand has a value from whatever session it is evaluated (`Expr.HasValue`), as
literals and fields have, it may occur any number of times.
-/

namespace RuleEngine

namespace Expr

variable {env : Environment} {levels : Nat} {record : Record} {left right operand : Expr}
  {a b : Value} {s t u : Session}

/-- The operators that need both their operands are applied to the values of them. -/
theorem run_binary {op : BinaryOp} (hop : op.isLogical = false)
    (hleft : (evalAt env levels left record).run s = (.ok a, t))
    (hright : (evalAt env levels right record).run t = (.ok b, u)) :
    (evalAt env levels (.binary op left right) record).run s = (op.applyBoth env a b).run u := by
  -- The left operand does not decide by itself, whatever its value is.
  have hopen : op.settled? a = none := by
    cases op with
    | logical op => cases hop
    | _ => rfl
  rw [evalAt_eq] at hleft hright ⊢
  rw [evalWith_binary, run_bind_ok hleft, hopen]
  exact run_bind_ok hright

theorem run_unary (op : UnaryOp)
    (hoperand : (evalAt env levels operand record).run s = (.ok a, t)) :
    (evalAt env levels (.unary op operand) record).run s = (op.apply a, t) := by
  rw [evalAt_eq] at hoperand ⊢
  rw [evalWith, run_bind_ok hoperand]
  rfl

/-! ### Values that do not depend on the session -/

/-- An expression has a value on a record, from whatever session it is evaluated. -/
def HasValue (env : Environment) (levels : Nat) (record : Record) (e : Expr) (v : Value) : Prop :=
  ∀ s, ((evalAt env levels e record).run s).1 = .ok v

theorem hasValue_literal (v : Value) : HasValue env levels record (.literal v) v := by
  intro s
  rw [evalAt_eq, evalWith]
  rfl

theorem hasValue_field (name : String) :
    HasValue env levels record (.field name) (record.lookup name) := by
  intro s
  rw [evalAt_eq, evalWith]
  rfl

/-- The outcome of an arithmetic operator is that on the values of its operands. -/
theorem HasValue.arithmetic (hleft : HasValue env levels record left a)
    (hright : HasValue env levels record right b) (op : Arithmetic) (s : Session) :
    ((evalAt env levels (.binary (.arithmetic op) left right) record).run s).1 = op.apply a b := by
  have hop : (BinaryOp.arithmetic op).isLogical = false := rfl
  rw [run_binary hop (Prod.ext (hleft s) rfl) (Prod.ext (hright _) rfl)]
  rfl

theorem HasValue.unary (hoperand : HasValue env levels record operand a) (op : UnaryOp)
    (s : Session) :
    ((evalAt env levels (.unary op operand) record).run s).1 = op.apply a := by
  rw [run_unary op (Prod.ext (hoperand s) rfl)]

end Expr

end RuleEngine
