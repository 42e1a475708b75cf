import RuleEngine.Proofs.Engine.Compiling
import RuleEngine.Proofs.Operator.Integers
import RuleEngine.Proofs.Parser.Integers

/-!
# Rules that are integers

The decimal text of a 64-bit integer is a rule, and its value is that integer. The one
exception is the least of them: its digits alone are out of range, so it is refused
(`Engine.integers_read_exactly`).
-/

namespace RuleEngine

open Grammar

/-! ### Texts of integers -/

/-- The sign that a number is written with: none, if it is not negative. -/
def signOf (n : Int) : List Char :=
  if n < 0 then ['-'] else []

theorem areSigns_signOf (n : Int) : AreSigns (signOf n) := by
  rw [signOf]
  split <;> simp [AreSigns]

theorem count_signOf_le (n : Int) : (signOf n).count '-' ≤ 1 := by
  rw [signOf]
  split <;> decide

/-- A number is written as its sign and the digits of its magnitude. -/
theorem toString_int (n : Int) :
    toString n = String.ofList (signOf n ++ Nat.toDigits 10 n.natAbs) := by
  rw [Int.toString_eq_repr]
  cases n with
  | ofNat m => exact Nat.repr_eq_ofList_toDigits
  | negSucc m =>
    rw [signOf, if_pos (Int.negSucc_lt_zero m), String.ofList_append, Int.repr,
      Nat.repr_eq_ofList_toDigits]
    rfl

namespace Expr

/-- The text of an integer is read as its magnitude, under a minus if it is negative. Only
    the least one has a magnitude out of range. -/
theorem parse_toString {limit : Nat} (hlimit : 2 ≤ limit) (n : Int64) :
    parse (toString n.toInt) limit =
      if n.toInt.natAbs ≤ 9223372036854775807 then
        .ok (negated ((signOf n.toInt).count '-')
          (.literal (.integer (Int64.ofNat n.toInt.natAbs))))
      else .error (.badSyntax (signOf n.toInt).length
        (.integerOutOfRange (toString n.toInt.natAbs))) := by
  obtain ⟨hdigits, hvalue⟩ := Decimal.placeValue_toDigits n.toInt.natAbs
  have hcount : (signOf n.toInt).count '-' < limit :=
    Nat.lt_of_le_of_lt (count_signOf_le _) hlimit
  rw [toString_int, parse_signed (areSigns_signOf _) hdigits hcount, hvalue,
    ← Nat.repr_eq_ofList_toDigits]
  rfl

theorem functionNames_negated (count : Nat) (e : Expr) :
    (negated count e).functionNames = e.functionNames := by
  induction count with
  | zero => rfl
  | succ count ih => exact ih

/-- The magnitude of an integer under its sign has that integer as its value. -/
theorem hasValue_negated {env : Environment} {levels : Nat} {record : Record} {n : Int64}
    (hrange : n.toInt.natAbs ≤ 9223372036854775807) : HasValue env levels record
      (negated ((signOf n.toInt).count '-') (.literal (.integer (Int64.ofNat n.toInt.natAbs))))
      (.integer n) := by
  have hmagnitude : (Int64.ofNat n.toInt.natAbs).toInt = n.toInt.natAbs :=
    Int64.toInt_ofNat_of_lt (Nat.lt_succ_of_le hrange)
  by_cases hsign : n.toInt < 0
  · -- The integer is minus its magnitude, and that does not overflow.
    rw [signOf, if_pos hsign]
    intro s
    refine ((hasValue_literal _).unary .minus s).trans ?_
    exact ((UnaryOp.minus_outcomes _).2 _).mpr ⟨n, rfl, by omega⟩
  · have hn : Int64.ofNat n.toInt.natAbs = n := Int64.toInt_inj.mp (by omega)
    rw [signOf, if_neg hsign, hn]
    exact hasValue_literal _

end Expr

/-- Only the least integer has a magnitude out of range. -/
theorem natAbs_toInt_le_iff {n : Int64} :
    n.toInt.natAbs ≤ 9223372036854775807 ↔ n ≠ Int64.minValue := by
  have hlow := n.le_toInt
  have hhigh := n.toInt_lt
  rw [ne_eq, ← Int64.toInt_inj, Int64.toInt_minValue]
  omega

namespace Engine

/-- Integers are read exactly, where a rule may be two levels deep. The decimal text of every
    64-bit integer but the least one is compiled, and wherever it is evaluated, its value is
    that integer. Decimal digits, however many there are and with any zeros first, with minus
    signs and white space before them, fewer minus signs than there are levels, are read as
    the number that they write under as many minus operators, if that number is in range, and
    are refused at the first of them if it is not. So the text of the least integer is
    refused. -/
theorem integers_read_exactly (engine : Engine) (hdepth : 2 ≤ engine.config.maxDepth) :
    (∀ n : Int64, n ≠ Int64.minValue → ∃ rule, engine.compile (toString n.toInt) = .ok rule ∧
      ∀ (evaluating : Engine) (record : Record),
        (evaluating.evaluate rule record).1 = .ok (.integer n)) ∧
    (∀ signs digits : List Char, AreSigns signs → IsDigits digits →
      signs.count '-' < engine.config.maxDepth →
      Expr.parse (String.ofList (signs ++ digits)) engine.config.maxDepth =
        if Decimal.placeValue digits ≤ 9223372036854775807 then
          .ok (.negated (signs.count '-')
            (.literal (.integer (Int64.ofNat (Decimal.placeValue digits)))))
        else .error (.badSyntax signs.length (.integerOutOfRange (String.ofList digits)))) ∧
    engine.compile (toString Int64.minValue.toInt) =
      .error (.badSyntax 1 (.integerOutOfRange "9223372036854775808")) := by
  refine ⟨fun n hn => ?_, fun signs digits hsigns hdigits => Expr.parse_signed hsigns hdigits, ?_⟩
  · have hrange := natAbs_toInt_le_iff.mpr hn
    have hparse := Expr.parse_toString hdepth n
    rw [if_pos hrange] at hparse
    have hknown : ∀ name ∈ (Expr.negated ((signOf n.toInt).count '-')
        (.literal (.integer (Int64.ofNat n.toInt.natAbs)))).functionNames, engine.Knows name := by
      rw [Expr.functionNames_negated]
      exact nofun
    obtain ⟨rule, hrule⟩ := exists_compile_eq_ok_iff.mpr ⟨_, hparse, fun _ => hknown⟩
    obtain ⟨tree, htree, _, _, rfl⟩ := Compiled.ofSource_eq_ok_iff.mp hrule
    obtain rfl := Except.ok.inj (hparse.symm.trans htree)
    exact ⟨_, hrule, fun evaluating record => Expr.hasValue_negated hrange _⟩
  · refine bind_eq_error_iff.mpr (.inl ?_)
    have htext : toString Int64.minValue.toInt.natAbs = "9223372036854775808" := by
      decide +kernel
    rw [Expr.parse_toString hdepth, if_neg (by decide), htext]
    rfl

/-- Two signs and zeros before a digit, and the numbers next to the end of the range. -/
theorem integers_read_exactly_zeros :
    let engine := ofConfig { maxDepth := 3 }
    2 ≤ engine.config.maxDepth ∧
      (∃ rule, engine.compile "-9223372036854775807" = .ok rule ∧
        (engine.evaluate rule []).1 = .ok (.integer (-9223372036854775807))) ∧
      AreSigns "- \t-".toList ∧ IsDigits "007".toList ∧ "- \t-".toList.count '-' < 3 ∧
      Expr.parse "- \t-007" 3 = .ok (.unary .minus (.unary .minus (.literal (.integer 7)))) ∧
      Expr.parse "- \t-09223372036854775808" 3 =
        .error (.badSyntax 4 (.integerOutOfRange "09223372036854775808")) ∧
      engine.compile (toString Int64.minValue.toInt) =
        .error (.badSyntax 1 (.integerOutOfRange "9223372036854775808")) := by
  intro engine
  have hdepth : 2 ≤ engine.config.maxDepth := by decide
  obtain ⟨htext, hsigned, hleast⟩ := integers_read_exactly engine hdepth
  have hsigns : AreSigns "- \t-".toList := by
    have hall : "- \t-".toList.all (fun c => c == '-' || CharClass.isBlank c) = true := by
      decide +kernel
    exact fun c hc => by simpa using List.all_eq_true.mp hall c hc
  have hdigits : IsDigits "007".toList :=
    ⟨by decide +kernel, List.all_eq_true.mp (by decide +kernel)⟩
  have hdigits' : IsDigits "09223372036854775808".toList :=
    ⟨by decide +kernel, List.all_eq_true.mp (by decide +kernel)⟩
  have hcount : "- \t-".toList.count '-' < 3 := by decide +kernel
  have hread := hsigned _ _ hsigns hdigits hcount
  have hrefused := hsigned _ _ hsigns hdigits' hcount
  rw [← String.toList_append, String.ofList_toList, if_pos (by decide +kernel)] at hread
  rw [← String.toList_append, String.ofList_toList, if_neg (by decide +kernel)] at hrefused
  refine ⟨hdepth, ?_, hsigns, hdigits, hcount, hread, hrefused, hleast⟩
  obtain ⟨rule, hrule, hvalue⟩ := htext (-9223372036854775807) (by decide)
  have htext : toString (-9223372036854775807 : Int64).toInt = "-9223372036854775807" := by
    decide +kernel
  exact ⟨rule, htext ▸ hrule, hvalue engine []⟩

end Engine

end RuleEngine
