import RuleEngine.Proofs.Evaluation.Matching
import RuleEngine.Proofs.Evaluation.Operands
import RuleEngine.Proofs.Operator.Comparison

/-!
# The table of kinds

What kinds of operands an operator takes, and the kind of its result, is known in
two places: in the table that is looked at when a rule is compiled, and in what the
operators do to values. They agree on all values that are there (`FollowsTable`):
an operator fails for the kinds of its operands exactly where the table has no
entry, with these kinds, and all that it returns is of the kind of the entry. Where
there is an entry it may fail for what the values are, but never for their kinds.

There is a lemma for each sort of operator, by cases on the operands. For
comparisons it comes down to the table of verdicts (`Comparison.outputKind?_eq`).
-/

namespace RuleEngine

/-- The outcome of an operator is what the table has under the kinds of its operands. -/
structure FollowsTable (entry : Option Kind) (mismatch : Error) (outcome : Except Error Value) :
    Prop where
  /-- It fails for the kinds where there is no entry, and only there. -/
  mismatch_iff : (∃ e, outcome = .error e ∧ e.kind = .typeMismatch) ↔ entry = none
  /-- The failure is the one that tells the kinds. -/
  mismatch_eq : entry = none → outcome = .error mismatch
  /-- A value is of the kind of the entry. -/
  kind_eq : ∀ v, outcome = .ok v → entry = some v.kind
  /-- The other failures come with an entry, and are of arithmetic or of patterns. -/
  other : ∀ e, outcome = .error e → e.kind ≠ .typeMismatch →
    entry.isSome = true ∧ (e.kind = .arithmetic ∨ e.kind = .invalidPattern)

namespace FollowsTable

variable {mismatch : Error}

theorem mismatched (h : mismatch.kind = .typeMismatch) :
    FollowsTable none mismatch (.error mismatch) where
  mismatch_iff := ⟨fun _ => rfl, fun _ => ⟨mismatch, rfl, h⟩⟩
  mismatch_eq _ := rfl
  kind_eq := nofun
  other _ he hkind := absurd (Except.error.inj he ▸ h) hkind

theorem value (v : Value) : FollowsTable (some v.kind) mismatch (.ok v) where
  mismatch_iff := ⟨nofun, nofun⟩
  mismatch_eq := nofun
  kind_eq w hw := by rw [Except.ok.inj hw]
  other := nofun

theorem failed (kind : Kind) {e : Error} (h : e.kind = .arithmetic ∨ e.kind = .invalidPattern) :
    FollowsTable (some kind) mismatch (.error e) where
  mismatch_iff := by
    refine ⟨?_, nofun⟩
    rintro ⟨_, ⟨⟩, hkind⟩
    rcases h with h | h <;> rw [hkind] at h <;> cases h
  mismatch_eq := nofun
  kind_eq := nofun
  other _ he _ := ⟨rfl, Except.error.inj he ▸ h⟩

end FollowsTable

/-! ### Arithmetic -/

namespace Arithmetic

variable {op : Arithmetic} {mismatch : Error} {a b : Value}

theorem applyIntegers_followsTable (m n : Int64) :
    FollowsTable (some .integer) mismatch (op.applyIntegers m n) := by
  rw [applyIntegers]
  split
  · exact .failed _ (.inl rfl)
  · split
    · exact .value (.integer _)
    · exact .failed _ (.inl rfl)

/-- Two numbers that the table has a float for are computed with as floats. -/
theorem followsTable_of_numbers {x y : Float} (ha : a.number? = some x) (hb : b.number? = some y)
    (hentry : (BinaryOp.arithmetic op).outputKind? a.kind b.kind = some .float)
    (happly : op.apply a b = op.applyNumbers a b) :
    FollowsTable ((BinaryOp.arithmetic op).outputKind? a.kind b.kind) mismatch (op.apply a b) := by
  rw [hentry, happly, applyNumbers, ha, hb]
  dsimp only
  split
  · exact .failed _ (.inl rfl)
  · exact .value (.float _)

/-- Of values that are there, an arithmetic operator makes what the table says. -/
theorem apply_followsTable (op : Arithmetic) (ha : a ≠ .missing) (hb : b ≠ .missing) :
    FollowsTable ((BinaryOp.arithmetic op).outputKind? a.kind b.kind)
      (.typeMismatch (.binary (.arithmetic op)) a.kind (some b.kind)) (op.apply a b) := by
  cases a with
  | missing => exact absurd rfl ha
  | integer m =>
    cases b with
    | missing => exact absurd rfl hb
    | integer n => cases op <;> exact applyIntegers_followsTable m n
    | float y => exact followsTable_of_numbers rfl rfl (by cases op <;> rfl) rfl
    | _ => cases op <;> exact .mismatched rfl
  | float x =>
    cases b with
    | missing => exact absurd rfl hb
    | integer n => exact followsTable_of_numbers rfl rfl (by cases op <;> rfl) rfl
    | float y => exact followsTable_of_numbers rfl rfl (by cases op <;> rfl) rfl
    | _ => cases op <;> exact .mismatched rfl
  | string s =>
    cases b with
    | missing => exact absurd rfl hb
    | string t =>
      cases op with
      | add => exact .value (.string _)
      | _ => exact .mismatched rfl
    | _ => cases op <;> exact .mismatched rfl
  | _ =>
    cases b with
    | missing => exact absurd rfl hb
    | _ => cases op <;> exact .mismatched rfl

end Arithmetic

/-! ### Comparisons and matches -/

/-- The table has an entry for the values that a comparison has a verdict on. -/
theorem Comparison.outputKind?_eq (op : Comparison) {a b : Value} (ha : a ≠ .missing)
    (hb : b ≠ .missing) :
    (BinaryOp.comparison op).outputKind? a.kind b.kind =
      (op.verdict? (a.relation b)).map fun _ => .boolean := by
  cases a with
  | missing => exact absurd rfl ha
  | _ =>
    cases b with
    | missing => exact absurd rfl hb
    | _ => cases op <;> rfl

theorem Comparison.apply_followsTable (op : Comparison) {a b : Value} (ha : a ≠ .missing)
    (hb : b ≠ .missing) :
    FollowsTable ((BinaryOp.comparison op).outputKind? a.kind b.kind)
      (.typeMismatch (.binary (.comparison op)) a.kind (some b.kind)) (op.apply a b) := by
  rw [op.outputKind?_eq ha hb, apply_eq]
  cases op.verdict? (a.relation b) with
  | some x => exact .value (.boolean x)
  | none => exact .mismatched rfl

theorem Matching.apply_followsTable (env : Environment) (op : Matching) {a b : Value}
    (ha : a ≠ .missing) (s : Session) :
    FollowsTable ((BinaryOp.matching op).outputKind? a.kind b.kind)
      (.typeMismatch (.binary (.matching op)) a.kind (some b.kind))
      ((op.apply env a b).run s).1 := by
  cases a with
  | missing => exact absurd rfl ha
  | string subject =>
    cases b with
    | string text =>
      rw [run_apply_strings]
      cases hfound : ((Run.search env text subject).run s).1 with
      | ok found => exact .value (.boolean _)
      | error e =>
        obtain ⟨problem, rfl⟩ := Run.exists_problem_of_search hfound
        exact .failed _ (.inr rfl)
    | _ => exact .mismatched rfl
  | _ => cases b <;> exact .mismatched rfl

theorem UnaryOp.apply_followsTable (op : UnaryOp) {a : Value} (ha : a ≠ .missing) :
    FollowsTable (op.outputKind? a.kind) (.typeMismatch (.unary op) a.kind none) (op.apply a) := by
  cases op with
  | not =>
    cases a with
    | missing => exact absurd rfl ha
    | boolean p => exact .value (.boolean _)
    | _ => exact .mismatched rfl
  | minus =>
    cases a with
    | missing => exact absurd rfl ha
    | float x => exact .value (.float _)
    | integer n =>
      rw [apply]
      split
      · exact .value (.integer _)
      · exact .failed _ (.inl rfl)
    | _ => exact .mismatched rfl

/-! ### Expressions -/

/-- An operator that needs both its operands makes of values that are there what the table
    says. -/
theorem BinaryOp.applyBoth_followsTable (env : Environment) {op : BinaryOp}
    (hop : op.isLogical = false) {a b : Value} (ha : a ≠ .missing) (hb : b ≠ .missing)
    (s : Session) :
    FollowsTable (op.outputKind? a.kind b.kind) (.typeMismatch (.binary op) a.kind (some b.kind))
      ((op.applyBoth env a b).run s).1 := by
  cases op with
  | arithmetic op => exact op.apply_followsTable ha hb
  | comparison op => exact op.apply_followsTable ha hb
  | matching op => exact op.apply_followsTable env ha s
  | logical op => cases hop

namespace Expr

variable {env : Environment} {levels : Nat} {record : Record} {left : Expr} {a : Value}
  {s t : Session}

/-- The table of kinds says what the evaluator does. Where the operand of a unary operator,
    or both operands of a binary one other than `&&` and `||`, have values that are not
    missing, the operator fails for their kinds exactly if the table has no entry, with
    these kinds; what it returns is of the kind of the entry; and it fails otherwise only
    where there is one. -/
theorem operators_follow_table (hleft : (evalAt env levels left record).run s = (.ok a, t))
    (ha : a ≠ .missing) :
    (∀ op : UnaryOp, FollowsTable (op.outputKind? a.kind) (.typeMismatch (.unary op) a.kind none)
      ((evalAt env levels (.unary op left) record).run s).1) ∧
    ∀ (op : BinaryOp) right b u, op.isLogical = false →
      (evalAt env levels right record).run t = (.ok b, u) → b ≠ .missing →
        FollowsTable (op.outputKind? a.kind b.kind)
          (.typeMismatch (.binary op) a.kind (some b.kind))
          ((evalAt env levels (.binary op left right) record).run s).1 := by
  refine ⟨fun op => ?_, fun op right b u hop hright hb => ?_⟩
  · rw [run_unary op hleft]
    exact op.apply_followsTable ha
  · rw [run_binary hop hleft hright]
    exact op.applyBoth_followsTable env hop ha hb u

/-- A field is an integer and takes part in a sum as a float; a text has no minus and is no
    divisor, and no pattern if it does not read as one. -/
theorem operators_follow_table_fields :
    let env : Environment := ⟨Registry.builtin, {}⟩
    let s : Session := ⟨Caches.empty env.config.cacheCapacity, []⟩
    let record : Record := [("Count", .integer 3), ("Name", .string "a(")]
    let outcome (e : Expr) : Except Error Value := ((evalAt env 64 e record).run s).1
    let count : Expr := .field "Count"
    let name : Expr := .field "Name"
    (evalAt env 64 count record).run s = (.ok (.integer 3), s) ∧
      (evalAt env 64 name record).run s = (.ok (.string "a("), s) ∧
      (∃ v, outcome (.binary (.arithmetic .add) count (.literal (.float 0.5))) = .ok v ∧
        v.kind = .float) ∧
      outcome (.binary (.arithmetic .div) count name) =
        .error (.typeMismatch (.binary (.arithmetic .div)) .integer (some .string)) ∧
      outcome (.unary .minus name) = .error (.typeMismatch (.unary .minus) .string none) ∧
      ∃ e, outcome (.binary (.matching .found) name name) = .error e ∧
        (BinaryOp.matching .found).outputKind? .string .string = some .boolean ∧
        (e.kind = .arithmetic ∨ e.kind = .invalidPattern) := by
  intro env s record outcome count name
  have hcount : (evalAt env 64 count record).run s = (.ok (.integer 3), s) := rfl
  have hname : (evalAt env 64 name record).run s = (.ok (.string "a("), s) := rfl
  have hhalf : (evalAt env 64 (.literal (.float 0.5)) record).run s = (.ok (.float 0.5), s) := rfl
  obtain ⟨_, hbinary⟩ := operators_follow_table hcount nofun
  obtain ⟨hunary, hmatching⟩ := operators_follow_table hname nofun
  have hsum := hbinary (.arithmetic .add) _ _ _ rfl hhalf nofun
  have hquotient := hbinary (.arithmetic .div) _ _ _ rfl hname nofun
  have hmatch := hmatching (.matching .found) _ _ _ rfl hname nofun
  have hadded : outcome (.binary (.arithmetic .add) count (.literal (.float 0.5))) =
      .ok (.float (nearestFloat 3 + 0.5)) := rfl
  have hinvalid : outcome (.binary (.matching .found) name name) =
      .error (.invalidPattern "a(" .malformed) := rfl
  exact ⟨hcount, hname, ⟨_, hadded, (Option.some.inj (hsum.kind_eq _ hadded)).symm⟩,
    hquotient.mismatch_eq rfl, (hunary .minus).mismatch_eq rfl,
    ⟨_, hinvalid, rfl, (hmatch.other _ hinvalid nofun).2⟩⟩

end Expr

end RuleEngine
