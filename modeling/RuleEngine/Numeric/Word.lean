/-!
# 64-bit integers

The integers that 64 bits hold, with a sign. Computations are done on unbounded
integers; `int64?` tells whether their result is in range.
-/

namespace RuleEngine

/-- The 64-bit integer equal to an integer, if there is one. -/
def int64? (n : Int) : Option Int64 :=
  if -9223372036854775808 ≤ n ∧ n ≤ 9223372036854775807 then some (Int64.ofInt n) else none

theorem int64?_eq_none_iff {n : Int} :
    int64? n = none ↔ n < -9223372036854775808 ∨ 9223372036854775807 < n := by
  simp only [int64?]
  split <;> simp <;> omega

/-- A result in range is the integer itself. -/
theorem toInt_of_int64? {n : Int} {m : Int64} (h : int64? n = some m) : m.toInt = n := by
  simp only [int64?] at h
  split at h
  · next hn =>
    rw [← Option.some.inj h]
    exact Int64.toInt_ofInt_of_le (by omega) (by omega)
  · exact absurd h nofun

/-- Every 64-bit integer is in range. -/
theorem int64?_toInt (m : Int64) : int64? m.toInt = some m := by
  have := m.le_toInt
  have := m.toInt_lt
  rw [int64?, if_pos (by omega), Int64.ofInt_toInt]

/-- The float nearest to a 64-bit integer, of two the one with an even
    significand. -/
def nearestFloat (n : Int64) : Float :=
  let magnitude := (UInt64.ofNat n.toInt.natAbs).toFloat
  if n < 0 then -magnitude else magnitude

end RuleEngine
