import Mathlib
import RuleEngine.Operator.Apply

/-!
# The order of floats

Of two floats one is less, or they are equal, or they have no order since one of
them is no number. This is read off their signs, exponents and significands, into
which a float is unpacked: `floatOrder?` asks three questions one after the other,
and comes to what one comparison of the unpacked floats gives
(`floatOrder?_eq_compare`). From there the order is reversed when the floats are
exchanged (`floatOrder?_swap`), and there is none only with a NaN
(`floatOrder?_eq_none_iff`).

No integer becomes a NaN when it goes to the nearest float (`isNaN_nearestFloat`):
rounding ends with a finite float, and packing that gives no NaN (`isNaN_pack`).
-/

namespace RuleEngine

open Float.Model

/-! ### Unpacked floats -/

theorem compare_magnitudes_swap (e e' : Int) (m m' : Nat) :
    (compare e' e).then (compare m' m) = ((compare e e').then (compare m m')).swap := by
  rw [Ordering.swap_then, ← Std.OrientedCmp.eq_swap, ← Std.OrientedCmp.eq_swap]

/-- Exchanging two unpacked floats reverses their order. -/
theorem compare_unpacked_swap (x y : UnpackedFloat) :
    y.compare x = (x.compare y).map Ordering.swap := by
  cases x with
  | notANumber => cases y <;> rfl
  | infinity s =>
    cases y with
    | infinity t => cases s <;> cases t <;> rfl
    | _ => cases s <;> rfl
  | zero s =>
    cases y with
    | infinity t => cases t <;> rfl
    | finite t => cases t <;> rfl
    | _ => rfl
  | finite s m e =>
    cases y with
    | infinity t => cases t <;> rfl
    | zero t => cases s <;> rfl
    | notANumber => rfl
    | finite t m' e' =>
      -- Of two floats of one sign the magnitudes decide.
      cases s <;> cases t
      · exact congrArg (fun o => some o.swap) (compare_magnitudes_swap e e' m m')
      · rfl
      · rfl
      · exact congrArg some (compare_magnitudes_swap e e' m m')

/-- Two unpacked floats have an order unless one of them is a NaN. -/
theorem compare_unpacked_eq_none_iff (x y : UnpackedFloat) :
    x.compare y = none ↔ x.isNaN = true ∨ y.isNaN = true := by
  fun_cases UnpackedFloat.compare x y <;> simp_all [UnpackedFloat.isNaN]

/-! ### Floats -/

/-- Three questions find the order that one comparison of the unpacked floats gives. -/
theorem floatOrder?_eq_compare (a b : Float) :
    floatOrder? a b = a.toModel.compare b.toModel := by
  have hlt (a b : Float) : a < b ↔ a.toModel.compare b.toModel = some .lt :=
    decide_eq_true_iff.trans beq_iff_eq
  have heq : (a == b) = true ↔ a.toModel.compare b.toModel = some .eq :=
    beq_iff_eq (a := a.toModel.compare b.toModel)
  -- The second question is put to the floats exchanged.
  have hswap : b.toModel.compare a.toModel = (a.toModel.compare b.toModel).map Ordering.swap :=
    compare_unpacked_swap _ _
  rw [floatOrder?]
  simp only [hlt, heq, hswap]
  rcases a.toModel.compare b.toModel with _ | (_ | _ | _) <;> rfl

/-- Exchanging two floats reverses their order. -/
theorem floatOrder?_swap (a b : Float) : floatOrder? b a = (floatOrder? a b).map Ordering.swap := by
  rw [floatOrder?_eq_compare, floatOrder?_eq_compare]
  exact compare_unpacked_swap _ _

/-- Two floats have an order unless one of them is a NaN. -/
theorem floatOrder?_eq_none_iff (a b : Float) :
    floatOrder? a b = none ↔ a.isNaN = true ∨ b.isNaN = true := by
  rw [floatOrder?_eq_compare]
  exact compare_unpacked_eq_none_iff _ _

/-! ### Floats of integers -/

/-- A float is a NaN if all bits of its exponent are set and some of its significand. -/
theorem isNaN_unpack_iff (bits : BitVec Format.binary64.numBits) :
    (UnpackedFloat.unpack Format.binary64 bits).isNaN = true ↔
      UnpackedFloat.unpackExponent bits = -1#_ ∧ UnpackedFloat.unpackMantissa bits ≠ 0#_ := by
  simp only [UnpackedFloat.unpack]
  split_ifs <;> simp_all [UnpackedFloat.isNaN]

/-- Packing makes no NaN of another float: what has no exponent of its own becomes
    infinite. -/
theorem isNaN_pack (x : UnpackedFloat) : (Float.Model.pack x).isNaN = x.isNaN := by
  rw [Bool.eq_iff_iff]
  refine (isNaN_unpack_iff _).trans ?_
  simp only [Float.Model.pack]
  fun_cases UnpackedFloat.pack Format.binary64 x with
  | case1 => simp [UnpackedFloat.packedNaN, UnpackedFloat.isNaN]
  | case2 s => simp [UnpackedFloat.packedInfinity, UnpackedFloat.isNaN]
  | case3 s => simp [UnpackedFloat.packedZero, UnpackedFloat.isNaN]
  | case4 s => simp [UnpackedFloat.packedInfinity, UnpackedFloat.isNaN]
  | case5 s m e hm length exponent hrange =>
    -- An exponent in range does not have all its bits set.
    have hexponent : BitVec.ofNat 11 exponent ≠ -1#11 := by
      intro h
      have htoNat : exponent % 2048 = 2047 := congrArg BitVec.toNat h
      have hlt : ¬2048 ≤ exponent + 1 := hrange
      omega
    simpa [UnpackedFloat.isNaN] using fun h => absurd h hexponent
  | case6 => simp [UnpackedFloat.isNaN]

/-- Rounding ends with a finite float. -/
theorem isNaN_round (s : UnpackedFloat.Sign) (m : Nat) (e : Int) :
    (UnpackedFloat.round Format.binary64 s m e).isNaN = false := by
  unfold UnpackedFloat.round UnpackedFloat.roundWithAccuracy
  dsimp only
  split <;> rfl

theorem isNaN_toFloat (n : UInt64) : n.toFloat.isNaN = false := by
  refine (isNaN_pack _).trans ?_
  rw [UnpackedFloat.ofUInt64, UnpackedFloat.ofNat, UnpackedFloat.ofInt, UnpackedFloat.normalize]
  split
  · exact isNaN_round _ _ _
  · rfl
  · exact isNaN_round _ _ _

theorem isNaN_neg (x : Float) : (-x).isNaN = x.isNaN := by
  have hneg (y : UnpackedFloat) : y.neg.isNaN = y.isNaN := by cases y <;> rfl
  exact (isNaN_pack _).trans (hneg _)

/-- The float nearest to an integer is a number. -/
theorem isNaN_nearestFloat (n : Int64) : (nearestFloat n).isNaN = false := by
  rw [nearestFloat]
  split
  · exact (isNaN_neg _).trans (isNaN_toFloat _)
  · exact isNaN_toFloat _

end RuleEngine
