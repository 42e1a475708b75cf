import RuleEngine.Function.Builtin
import RuleEngine.Proofs.Evaluation.Congruence
import RuleEngine.Proofs.Evaluation.Returns

/-!
# Chains of conditions

Operands joined by one of the operators `&&` and `||` may be bracketed in many ways.
However they are (`Logical.Brackets`), evaluating the tree goes through the operands
from left to right and stops at the first that fails, is no condition, or decides the
whole (`Logical.LeftToRight`). So all brackets around the same operands have the same
outcome and leave the same session, with the same calls in its journal and the same
entries in its caches (`Logical.run_brackets`).

In between is the loop over the operands, `Logical.chain`: the truth of a tree is that
of the chain of its leaves, by induction on the brackets, since a chain of two parts is
the chain of the first and, if that does not decide, of the second (`Logical.chain_append`).
-/

namespace RuleEngine

namespace Logical

/-! ### Brackets -/

/-- A tree has some operands as its leaves, from left to right, and joins them by an
    operator. -/
inductive Brackets (op : Logical) : List Expr → Expr → Prop
  | operand (e : Expr) : Brackets op [e] e
  | join {ls rs : List Expr} {left right : Expr} (hleft : Brackets op ls left)
      (hright : Brackets op rs right) :
      Brackets op (ls ++ rs) (.binary (.logical op) left right)

variable (op : Logical) (evaluate : Expr → Run Value)

/-- From one session to another, operands are evaluated from left to right up to the first
    that fails, is no condition or decides the chain. Otherwise the last has its say. -/
inductive LeftToRight : List Expr → Session → Except Error Value → Session → Prop
  | fails {e : Expr} {rest : List Expr} {s s' : Session} {problem : Error}
      (h : (evaluate e).run s = (.error problem, s')) :
      LeftToRight (e :: rest) s (.error problem) s'
  | refused {e : Expr} {rest : List Expr} {s s' : Session} {v : Value}
      (h : (evaluate e).run s = (.ok v, s')) (hboolean : v.kind ≠ .boolean)
      (hmissing : v.kind ≠ .missing) :
      LeftToRight (e :: rest) s (.error (.typeMismatch (.binary (.logical op)) v.kind none)) s'
  | decides {e : Expr} {rest : List Expr} {s s' : Session} {v : Value}
      (h : (evaluate e).run s = (.ok v, s')) (hv : v.HasTruth op.decisive) :
      LeftToRight (e :: rest) s (.ok (.boolean op.decisive)) s'
  | last {e : Expr} {s s' : Session} {v : Value} {b : Bool}
      (h : (evaluate e).run s = (.ok v, s')) (hv : v.HasTruth b) :
      LeftToRight [e] s (.ok (.boolean b)) s'
  | passes {e : Expr} {rest : List Expr} {s s' s'' : Session} {v : Value}
      {result : Except Error Value} (h : (evaluate e).run s = (.ok v, s'))
      (hv : v.HasTruth (!op.decisive)) (hrest : LeftToRight rest s' result s'') :
      LeftToRight (e :: rest) s result s''

/-! ### The loop over the operands -/

/-- The truth of an operand. -/
def condition (e : Expr) : Run Bool := do
  Run.ofResult ((← evaluate e).truth (.binary (.logical op)))

/-- The truth of the first operand that decides, or of none. -/
def chain : List Expr → Run Bool
  | [] => return !op.decisive
  | e :: rest => do
    let b ← op.condition evaluate e
    if b = op.decisive then return b else chain rest

variable {op evaluate}

/-- The last operand has its truth whether it decides or not. -/
theorem chain_singleton (e : Expr) : op.chain evaluate [e] = op.condition evaluate e := by
  have hlast (b : Bool) : (if b = op.decisive then pure b else pure !op.decisive : Run Bool) =
      pure b := by
    split
    · rfl
    · next hb => rw [← Bool.eq_not_of_ne hb]
  simp only [chain, hlast, bind_pure]

/-- A second part is only gone through if the first does not decide. -/
theorem chain_append (ls rs : List Expr) :
    op.chain evaluate (ls ++ rs) = (do
      let b ← op.chain evaluate ls
      if b = op.decisive then return b else op.chain evaluate rs) := by
  induction ls with
  | nil => simp [chain]
  | cons e ls ih =>
    simp only [List.cons_append, chain, ih, bind_assoc]
    congr 1
    funext b
    split
    · next hb => simp [hb]
    · rfl

variable {operands rest : List Expr} {e : Expr} {s s' : Session} {v : Value} {b : Bool}
  {result : Except Error Value}

theorem run_condition (h : (evaluate e).run s = (.ok v, s')) :
    (op.condition evaluate e).run s = (v.truth (.binary (.logical op)), s') := by
  rw [condition, run_bind_ok h]
  rfl

/-- What there is to the operands from left to right is what the loop comes to. -/
theorem LeftToRight.run_chain (h : op.LeftToRight evaluate operands s result s') :
    (op.chain evaluate operands >>= fun b => return .boolean b).run s = (result, s') := by
  rw [run_bind_pure]
  induction h with
  | fails h =>
    rw [chain, run_bind, condition, run_bind, h]
    rfl
  | refused h hboolean hmissing =>
    rw [chain, run_bind, run_condition h, Value.truth_eq_error_iff.mpr ⟨rfl, hboolean, hmissing⟩]
    rfl
  | decides h hv =>
    rw [chain, run_bind, run_condition h, Value.truth_eq_ok_iff.mpr hv]
    dsimp only
    rw [if_pos rfl]
    rfl
  | last h hv =>
    rw [chain_singleton, run_condition h, Value.truth_eq_ok_iff.mpr hv]
    rfl
  | passes h hv _ ih =>
    rw [chain, run_bind, run_condition h, Value.truth_eq_ok_iff.mpr hv]
    dsimp only
    rwa [if_neg (by simp)]

/-- Going from left to right always comes to something. -/
theorem exists_leftToRight (hne : operands ≠ []) (s : Session) :
    ∃ result s', op.LeftToRight evaluate operands s result s' := by
  induction operands generalizing s with
  | nil => exact absurd rfl hne
  | cons e rest ih =>
    rcases h : (evaluate e).run s with ⟨problem | v, s'⟩
    · exact ⟨_, s', .fails h⟩
    cases htruth : v.truth (.binary (.logical op)) with
    | error problem =>
      obtain ⟨_, hboolean, hmissing⟩ := Value.truth_eq_error_iff.mp htruth
      exact ⟨_, s', .refused h hboolean hmissing⟩
    | ok b =>
      have hv := Value.truth_eq_ok_iff.mp htruth
      by_cases hrest : rest = []
      · subst hrest
        exact ⟨_, s', .last h hv⟩
      by_cases hb : b = op.decisive
      · subst hb
        exact ⟨_, s', .decides h hv⟩
      · rw [Bool.eq_not_of_ne hb] at hv
        obtain ⟨result, s'', hresult⟩ := ih hrest s'
        exact ⟨result, s'', .passes h hv hresult⟩

/-! ### Trees -/

variable {env : Environment} {levels : Nat} {record : Record} {t t' : Expr}

/-- A tree of two parts has the truth of the first if that decides, or else of the second. -/
theorem evalAt_logical (left right : Expr) :
    Expr.evalAt env levels (.binary (.logical op) left right) record = (do
      let b ← op.condition (Expr.evalAt env levels · record) left
      if b = op.decisive then return b else op.condition (Expr.evalAt env levels · record) right)
        >>= fun b => return .boolean b := by
  simp only [Expr.evalAt_eq, Expr.evalWith, condition, bind_assoc]
  congr 1
  funext v
  congr 1
  funext b
  split
  · exact (pure_bind _ _).symm
  · rw [bind_assoc]

/-- As a condition a tree is the chain of its leaves. -/
theorem Brackets.condition_eq (h : op.Brackets operands t) :
    op.condition (Expr.evalAt env levels · record) t =
      op.chain (Expr.evalAt env levels · record) operands := by
  induction h with
  | operand e => exact (chain_singleton e).symm
  | @join ls rs left right _ _ ihleft ihright =>
    rw [chain_append, ← ihleft, ← ihright, condition, evalAt_logical, bind_assoc]
    exact bind_pure _

/-- The value of a tree of two or more operands is the truth of their chain. -/
theorem Brackets.evalAt_eq (h : op.Brackets operands t) (hlength : 2 ≤ operands.length) :
    Expr.evalAt env levels t record =
      op.chain (Expr.evalAt env levels · record) operands >>= fun b => return .boolean b := by
  cases h with
  | operand e => exact absurd hlength (Nat.not_le_of_lt Nat.one_lt_two)
  | join hleft hright =>
    rw [evalAt_logical, hleft.condition_eq, hright.condition_eq, ← chain_append]

/-- However two or more operands are bracketed, evaluating the tree has the same outcome and
    leaves the same session: those of going through the operands from left to right. -/
theorem run_brackets (op : Logical) (env : Environment) (levels : Nat) (record : Record)
    {operands : List Expr} (hlength : 2 ≤ operands.length) {t t' : Expr}
    (h : op.Brackets operands t) (h' : op.Brackets operands t') (s : Session) :
    (Expr.evalAt env levels t record).run s = (Expr.evalAt env levels t' record).run s ∧
      ∀ result s', (Expr.evalAt env levels t record).run s = (result, s') ↔
        op.LeftToRight (Expr.evalAt env levels · record) operands s result s' := by
  rw [h.evalAt_eq hlength, h'.evalAt_eq hlength]
  refine ⟨rfl, fun result s' => ⟨fun hrun => ?_, fun h => h.run_chain⟩⟩
  have hne : operands ≠ [] := List.ne_nil_of_length_pos (Nat.zero_lt_of_lt hlength)
  obtain ⟨result', s'', hscan⟩ : ∃ result' s'', op.LeftToRight _ operands s result' s'' :=
    exists_leftToRight hne s
  obtain ⟨rfl, rfl⟩ := Prod.mk.inj (hrun.symm.trans hscan.run_chain)
  exact hscan

/-- The second of three conditions decides, after a call, and the third is never evaluated
    although it could not be. -/
theorem run_brackets_decided :
    let env : Environment := ⟨Registry.builtin, {}⟩
    let s : Session := ⟨Caches.empty env.config.cacheCapacity, []⟩
    let items : Value := .list [.record []]
    let record : Record := [("Items", items), ("x", .boolean true)]
    let called : Expr := .call "any" [.literal (.string "x"), .field "Items"]
    let operands : List Expr := [.field "x", called, .call "unknown" []]
    let t : Expr := .binary (.logical .and) (.binary (.logical .and) (.field "x") called)
      (.call "unknown" [])
    let t' : Expr := .binary (.logical .and) (.field "x")
      (.binary (.logical .and) called (.call "unknown" []))
    2 ≤ operands.length ∧ and.Brackets operands t ∧ and.Brackets operands t' ∧
      (Expr.evalAt env 64 t record).run s = (Expr.evalAt env 64 t' record).run s ∧
      ((Expr.evalAt env 64 t record).run s).1 = .ok (.boolean false) ∧
      ((Expr.evalAt env 64 t record).run s).2.journal = [⟨"any", 0, [.string "x", items]⟩] ∧
      and.LeftToRight (Expr.evalAt env 64 · record) operands s (.ok (.boolean false))
        ((Expr.evalAt env 64 t record).run s).2 := by
  intro env s items record called operands t t'
  have hlength : 2 ≤ operands.length := by decide
  have h : and.Brackets operands t :=
    .join (.join (.operand _) (.operand _)) (.operand _)
  have h' : and.Brackets operands t' :=
    .join (.operand _) (.join (.operand _) (.operand _))
  obtain ⟨hsame, hscan⟩ := run_brackets and env 64 record hlength h h' s
  have hvalue : ((Expr.evalAt env 64 t record).run s).1 = .ok (.boolean false) := rfl
  exact ⟨hlength, h, h', hsame, hvalue, rfl, (hscan _ _).mp (Prod.ext hvalue rfl)⟩

end Logical

end RuleEngine
