import RuleEngine.Proofs.Evaluation.Operands

/-!
# Exact integers

An arithmetic operator on two integers computes the exact result, as it is on the
unbounded integers (`Arithmetic.exact`): quotients are cut off towards zero, and
remainders have the sign of the dividend. Two things can come in between. There is
no result of a division by zero, and a result that no 64-bit integer equals is
reported as an overflow (`Arithmetic.applyIntegers_outcomes`). The only quotient out
of range is that of the least integer and `-1` (`int64?_tdiv_eq_none_iff`); these
two have a remainder, zero, but it is refused with the quotient.

Where there are a quotient and a remainder, they give the dividend back, and nothing
on the way is out of range, since the multiple of the divisor lies between zero and
the dividend (`exists_int64?_tdiv_mul`). `Expr.integers_exact` says all this of
expressions with integer values.
-/

namespace RuleEngine

/-! ### Range -/

theorem int64?_eq_some_iff {n : Int} {m : Int64} : int64? n = some m ↔ m.toInt = n :=
  ⟨toInt_of_int64?, fun h => h ▸ int64?_toInt m⟩

theorem exists_int64? {n : Int} (hlow : -9223372036854775808 ≤ n)
    (hhigh : n ≤ 9223372036854775807) : ∃ m, int64? n = some m :=
  ⟨_, if_pos ⟨hlow, hhigh⟩⟩

theorem int64?_neg_eq_none_iff {a : Int64} : int64? (-a.toInt) = none ↔ a = Int64.minValue := by
  rw [int64?_eq_none_iff, ← Int64.toInt_inj, Int64.toInt_minValue]
  have hlow := a.le_toInt
  have hhigh := a.toInt_lt
  omega

variable {a b : Int64}

/-- The only quotient out of range is that of the least integer and `-1`. -/
theorem int64?_tdiv_eq_none_iff (hb : b ≠ 0) :
    int64? (a.toInt.tdiv b.toInt) = none ↔ a = Int64.minValue ∧ b = -1 := by
  rw [int64?_eq_none_iff, ← Int64.toInt_inj, ← Int64.toInt_inj, Int64.toInt_minValue]
  have hdivisor : b.toInt ≠ 0 := fun h => hb (Int64.toInt_inj.mp h)
  have hlow := a.le_toInt
  have hhigh := a.toInt_lt
  have hminus : (-1 : Int64).toInt = -1 := rfl
  rw [hminus]
  by_cases hunit : b.toInt.natAbs = 1
  · rcases Int.natAbs_eq_iff.mp hunit with h | h <;> rw [h]
    · rw [Int.cast_ofNat_Int, Int.tdiv_one]
      omega
    · rw [Int.cast_ofNat_Int, Int.tdiv_neg, Int.tdiv_one]
      omega
  · -- Any other divisor takes at least half of the dividend away.
    have hquotient : (a.toInt.tdiv b.toInt).natAbs = a.toInt.natAbs / b.toInt.natAbs :=
      Int.natAbs_tdiv _ _
    have hhalf : a.toInt.natAbs / b.toInt.natAbs ≤ a.toInt.natAbs / 2 :=
      Nat.div_le_div_left (by omega) (by decide)
    omega

/-- The multiple of the divisor in a dividend lies between zero and the dividend. -/
theorem exists_int64?_tdiv_mul (a b : Int64) :
    ∃ m, int64? (a.toInt.tdiv b.toInt * b.toInt) = some m := by
  have hsum := Int.tdiv_mul_add_tmod a.toInt b.toInt
  have hremainder := Int.natAbs_tmod a.toInt b.toInt
  have hle := Nat.mod_le a.toInt.natAbs b.toInt.natAbs
  have hlow := a.le_toInt
  have hhigh := a.toInt_lt
  -- The remainder has the sign of the dividend, so the multiple is no further from zero.
  rcases Int.le_total 0 a.toInt with hsign | hsign
  · have hnonneg := Int.tmod_nonneg b.toInt hsign
    exact exists_int64? (by omega) (by omega)
  · have hnonneg := Int.tmod_nonneg b.toInt (Int.neg_nonneg_of_nonpos hsign)
    rw [Int.neg_tmod] at hnonneg
    exact exists_int64? (by omega) (by omega)

/-! ### Operators on integers -/

namespace Arithmetic

/-- The result on unbounded integers. -/
def exact (op : Arithmetic) (a b : Int) : Int :=
  match op with
  | add => a + b
  | sub => a - b
  | mul => a * b
  | div => a.tdiv b
  | mod => a.tmod b

/-- There is no result, since the divisor is zero. -/
def IsUndefined (op : Arithmetic) (b : Int64) : Prop :=
  (op = div ∨ op = mod) ∧ b = 0

/-- The remainder is refused although there is one, since the quotient is out of range. -/
def IsRefused (op : Arithmetic) (a b : Int64) : Prop :=
  op = mod ∧ a = Int64.minValue ∧ b = -1

variable {op : Arithmetic}

theorem isUndefined_iff : op.IsUndefined b ↔ (op.isDivision && b == 0) = true := by
  cases op <;> simp [IsUndefined, isDivision]

/-- Apart from the remainder that is refused, the result is the exact one if that is in
    range. -/
theorem integerResult?_eq_some_iff (h : ¬op.IsUndefined b) {n : Int64} :
    op.integerResult? a.toInt b.toInt = some n ↔
      n.toInt = op.exact a.toInt b.toInt ∧ ¬op.IsRefused a b := by
  have hkept (hop : op ≠ mod) : ¬op.IsRefused a b := fun h => hop h.1
  cases op with
  | add => exact int64?_eq_some_iff.trans (iff_self_and.mpr fun _ => hkept nofun)
  | sub => exact int64?_eq_some_iff.trans (iff_self_and.mpr fun _ => hkept nofun)
  | mul => exact int64?_eq_some_iff.trans (iff_self_and.mpr fun _ => hkept nofun)
  | div => exact int64?_eq_some_iff.trans (iff_self_and.mpr fun _ => hkept nofun)
  | mod =>
    have hb : b ≠ 0 := fun hb => h ⟨.inr rfl, hb⟩
    have hquotient : (∃ q, int64? (a.toInt.tdiv b.toInt) = some q) ↔ ¬mod.IsRefused a b := by
      rw [← Option.ne_none_iff_exists', ne_eq, int64?_tdiv_eq_none_iff hb, IsRefused]
      exact not_congr (iff_and_self.mpr fun _ => rfl)
    rw [integerResult?, Option.bind_eq_some_iff, exists_and_right, hquotient, int64?_eq_some_iff]
    exact and_comm

/-- The integer result is missing if the exact one is out of range or refused. -/
theorem integerResult?_eq_none_iff (h : ¬op.IsUndefined b) :
    op.integerResult? a.toInt b.toInt = none ↔
      (∀ n : Int64, n.toInt ≠ op.exact a.toInt b.toInt) ∨ op.IsRefused a b := by
  simp only [Option.eq_none_iff_forall_ne_some, ne_eq, integerResult?_eq_some_iff h]
  by_cases hrefused : op.IsRefused a b <;> simp [hrefused]

/-- An operator on two integers gives the exact result, or says that there is none or that
    it is out of range. -/
theorem applyIntegers_outcomes (op : Arithmetic) (a b : Int64) :
    (op.applyIntegers a b = .error .divisionByZero ↔ op.IsUndefined b) ∧
    (∀ v, op.applyIntegers a b = .ok v ↔ ∃ n : Int64, v = .integer n ∧
      n.toInt = op.exact a.toInt b.toInt ∧ ¬op.IsUndefined b ∧ ¬op.IsRefused a b) ∧
    (op.applyIntegers a b = .error (.overflow (.binary (.arithmetic op))) ↔
      ¬op.IsUndefined b ∧
        ((∀ n : Int64, n.toInt ≠ op.exact a.toInt b.toInt) ∨ op.IsRefused a b)) := by
  rw [applyIntegers]
  by_cases h : op.IsUndefined b
  · rw [if_pos (isUndefined_iff.mp h)]
    simp [h]
  · -- The exact result and the remainder that is refused decide what the result in range is.
    rw [if_neg (mt isUndefined_iff.mpr h)]
    simp only [h, not_false_eq_true, true_and, ← integerResult?_eq_some_iff h,
      ← integerResult?_eq_none_iff h]
    cases op.integerResult? a.toInt b.toInt <;> simp [eq_comm]

theorem applyIntegers_eq_ok_iff {v : Value} : op.applyIntegers a b = .ok v ↔
    ∃ n : Int64, v = .integer n ∧ n.toInt = op.exact a.toInt b.toInt ∧ ¬op.IsUndefined b ∧
      ¬op.IsRefused a b :=
  (applyIntegers_outcomes op a b).2.1 v

/-- Where a quotient and a remainder have been computed, the dividend can be computed from
    them. -/
theorem recombined {m n : Int64} (hdiv : div.applyIntegers a b = .ok (.integer m))
    (hmod : mod.applyIntegers a b = .ok (.integer n)) :
    ∃ p : Int64, mul.applyIntegers m b = .ok (.integer p) ∧
      add.applyIntegers p n = .ok (.integer a) := by
  obtain ⟨_, ⟨⟩, hm, _⟩ := applyIntegers_eq_ok_iff.mp hdiv
  obtain ⟨_, ⟨⟩, hn, _⟩ := applyIntegers_eq_ok_iff.mp hmod
  obtain ⟨p, hp⟩ := exists_int64?_tdiv_mul a b
  have hproduct : p.toInt = m.toInt * b.toInt := by
    rw [toInt_of_int64? hp, hm, exact]
  have hsum : a.toInt = p.toInt + n.toInt := by
    rw [toInt_of_int64? hp, hn, exact, Int.tdiv_mul_add_tmod]
  refine ⟨p, applyIntegers_eq_ok_iff.mpr ⟨p, rfl, hproduct, ?_, ?_⟩,
    applyIntegers_eq_ok_iff.mpr ⟨a, rfl, hsum, ?_, ?_⟩⟩ <;> simp [IsUndefined, IsRefused]

end Arithmetic

/-- A minus is exact, and overflows only on the least integer. -/
theorem UnaryOp.minus_outcomes (a : Int64) :
    (minus.apply (.integer a) = .error (.overflow (.unary .minus)) ↔ a = Int64.minValue) ∧
    ∀ v, minus.apply (.integer a) = .ok v ↔
      ∃ n : Int64, v = .integer n ∧ n.toInt = -a.toInt := by
  simp only [apply, ← int64?_neg_eq_none_iff, ← int64?_eq_some_iff]
  cases int64? (-a.toInt) with
  | none => exact ⟨iff_of_true rfl rfl, fun v => ⟨nofun, nofun⟩⟩
  | some m => simp [eq_comm]

/-! ### Expressions with integer values -/

namespace Expr

variable {env : Environment} {levels : Nat} {record : Record} {left right : Expr}

/-- Integer arithmetic is exact or says why not. Of two integers an operator divides by
    zero exactly where the divisor is zero; it overflows exactly where no integer in range
    is the exact result, or where the least one is to be divided by `-1` for the
    remainder, although that is zero; and it gives the exact result otherwise. A minus
    overflows exactly on the least integer and is exact otherwise. And where the quotient
    and the remainder can be computed, so can the dividend from them. -/
theorem integers_exact {a b : Int64} (hleft : HasValue env levels record left (.integer a))
    (hright : HasValue env levels record right (.integer b)) (s : Session) :
    let outcome (e : Expr) : Except Error Value := ((evalAt env levels e record).run s).1
    let quotient : Expr := .binary (.arithmetic .div) left right
    let remainder : Expr := .binary (.arithmetic .mod) left right
    (∀ op : Arithmetic, let e : Expr := .binary (.arithmetic op) left right
      (outcome e = .error .divisionByZero ↔ op.IsUndefined b) ∧
      (∀ v, outcome e = .ok v ↔ ∃ n : Int64, v = .integer n ∧
        n.toInt = op.exact a.toInt b.toInt ∧ ¬op.IsUndefined b ∧ ¬op.IsRefused a b) ∧
      (outcome e = .error (.overflow (.binary (.arithmetic op))) ↔ ¬op.IsUndefined b ∧
        ((∀ n : Int64, n.toInt ≠ op.exact a.toInt b.toInt) ∨ op.IsRefused a b)) ∧
      (op.IsRefused a b → op.exact a.toInt b.toInt = 0)) ∧
    (outcome (.unary .minus left) = .error (.overflow (.unary .minus)) ↔ a = Int64.minValue) ∧
    (∀ v, outcome (.unary .minus left) = .ok v ↔
      ∃ n : Int64, v = .integer n ∧ n.toInt = -a.toInt) ∧
    (∀ v w, outcome quotient = .ok v → outcome remainder = .ok w →
      outcome (.binary (.arithmetic .add) (.binary (.arithmetic .mul) quotient right) remainder) =
        .ok (.integer a)) := by
  intro outcome quotient remainder
  have hbinary (op : Arithmetic) : ∀ s, ((evalAt env levels (.binary (.arithmetic op) left right)
      record).run s).1 = op.applyIntegers a b := hleft.arithmetic hright op
  obtain ⟨hminus, hnegated⟩ := UnaryOp.minus_outcomes a
  refine ⟨fun op => ?_, ?_, ?_, fun v w hv hw => ?_⟩
  · dsimp only [outcome]
    rw [hbinary op s]
    obtain ⟨hzero, hok, hoverflow⟩ := Arithmetic.applyIntegers_outcomes op a b
    refine ⟨hzero, hok, hoverflow, ?_⟩
    rintro ⟨rfl, rfl, rfl⟩
    rfl
  · dsimp only [outcome]
    rwa [hleft.unary]
  · dsimp only [outcome]
    rwa [hleft.unary]
  · have hdiv : Arithmetic.div.applyIntegers a b = .ok v := (hbinary .div s).symm.trans hv
    have hmod : Arithmetic.mod.applyIntegers a b = .ok w := (hbinary .mod s).symm.trans hw
    obtain ⟨m, rfl, _⟩ := Arithmetic.applyIntegers_eq_ok_iff.mp hdiv
    obtain ⟨n, rfl, _⟩ := Arithmetic.applyIntegers_eq_ok_iff.mp hmod
    obtain ⟨p, hmul, hadd⟩ := Arithmetic.recombined hdiv hmod
    -- Each part has its value from every session, so it does not matter that the operands
    -- are evaluated again.
    have hquotient : HasValue env levels record quotient (.integer m) :=
      fun t => (hbinary .div t).trans hdiv
    have hremainder : HasValue env levels record remainder (.integer n) :=
      fun t => (hbinary .mod t).trans hmod
    have hproduct : HasValue env levels record
        (.binary (.arithmetic .mul) quotient right) (.integer p) :=
      fun t => (hquotient.arithmetic hright .mul t).trans hmul
    exact (hproduct.arithmetic hremainder .add s).trans hadd

/-- The least integer, in a field, has no remainder by `-1`, but its quotient and remainder
    by `-3` give it back. -/
theorem integers_exact_least :
    let env : Environment := ⟨Registry.builtin, {}⟩
    let s : Session := ⟨Caches.empty env.config.cacheCapacity, []⟩
    let record : Record := [("Balance", .integer Int64.minValue)]
    let outcome (e : Expr) : Except Error Value := ((evalAt env 64 e record).run s).1
    let left : Expr := .field "Balance"
    let right : Expr := .literal (.integer (-3))
    let quotient : Expr := .binary (.arithmetic .div) left right
    let remainder : Expr := .binary (.arithmetic .mod) left right
    HasValue env 64 record left (.integer Int64.minValue) ∧
      HasValue env 64 record right (.integer (-3)) ∧
      outcome (.binary (.arithmetic .mod) left (.literal (.integer (-1)))) =
        .error (.overflow (.binary (.arithmetic .mod))) ∧
      outcome quotient = .ok (.integer 3074457345618258602) ∧
      outcome remainder = .ok (.integer (-2)) ∧
      outcome (.binary (.arithmetic .add) (.binary (.arithmetic .mul) quotient right) remainder) =
        .ok (.integer Int64.minValue) ∧
      outcome (.unary .minus left) = .error (.overflow (.unary .minus)) := by
  intro env s record outcome left right quotient remainder
  have hleft : HasValue env 64 record left (.integer Int64.minValue) := hasValue_field _
  have hright : HasValue env 64 record right (.integer (-3)) := hasValue_literal _
  have hunit : HasValue env 64 record (.literal (.integer (-1))) (.integer (-1)) :=
    hasValue_literal _
  obtain ⟨hrefused, hminus, _⟩ := integers_exact hleft hunit s
  obtain ⟨hbinary, _, _, hrecombined⟩ := integers_exact hleft hright s
  have hquotient : outcome quotient = .ok (.integer 3074457345618258602) :=
    ((hbinary .div).2.1 _).mpr ⟨_, rfl, by decide, by simp [Arithmetic.IsUndefined],
      by simp [Arithmetic.IsRefused]⟩
  have hremainder : outcome remainder = .ok (.integer (-2)) :=
    ((hbinary .mod).2.1 _).mpr ⟨_, rfl, by decide, by simp [Arithmetic.IsUndefined],
      by simp [Arithmetic.IsRefused]⟩
  exact ⟨hleft, hright, (hrefused .mod).2.2.1.mpr ⟨by simp [Arithmetic.IsUndefined],
    .inr ⟨rfl, rfl, rfl⟩⟩, hquotient, hremainder, hrecombined _ _ hquotient hremainder,
    hminus.mpr rfl⟩

end Expr

end RuleEngine
