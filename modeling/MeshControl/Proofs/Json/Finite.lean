import Mathlib.Algebra.Ring.Nat
import MeshControl.Json.Source

/-!
Whole numbers as doubles. A double is finite unless it has the greatest exponent, and the exponent
of a whole number of 64 bits stays far below that while the number is rounded.
-/
namespace MeshControl.Json

open Float.Model (Format UnpackedFloat totalExponent)
open Float.Model.UnpackedFloat

/-- A number with an exponent that finite doubles have. -/
def InRange : UnpackedFloat → Prop
  | .zero _ => True
  | .finite _ _ exponent _ => exponent ≤ 971
  | .infinity _ | .notANumber => False

theorem exponentBias_add : (Format.binary64.exponentBias : Int) + 52 = 1075 := by decide

theorem targetExponent_eq (total : Int) :
    Format.binary64.targetExponent total = max (total - 53) (-1074) := rfl

/-! ### Packing -/

/-- Only what is not finite has all bits of the exponent set. -/
theorem isFinite_unpack_iff {b : BitVec Format.binary64.numBits} :
    (unpack Format.binary64 b).isFinite = true ↔ unpackExponent b ≠ -1#_ := by
  unfold unpack
  by_cases hlast : unpackExponent b = -1#_
  · rw [if_pos hlast]
    refine iff_of_false ?_ (fun hne => hne hlast)
    by_cases hnone : unpackMantissa b = 0#_
    · rw [if_pos hnone]
      exact Bool.false_ne_true
    · rw [if_neg hnone]
      exact Bool.false_ne_true
  · rw [if_neg hlast]
    refine iff_of_true ?_ hlast
    by_cases hzero : unpackExponent b = 0#_
    · rw [if_pos hzero]
      by_cases hnone : unpackMantissa b = 0#_
      · rw [dif_pos hnone]
        rfl
      · rw [dif_neg hnone]
        rfl
    · rw [if_neg hzero]
      rfl

theorem inRange_unpack {b : BitVec Format.binary64.numBits}
    (h : (unpack Format.binary64 b).isFinite = true) : InRange (unpack Format.binary64 b) := by
  have hlast := isFinite_unpack_iff.mp h
  have hlt : (unpackExponent b).toNat < 2047 := by
    have hbound : (unpackExponent b).toNat < 2048 := (unpackExponent b).isLt
    have hne : (unpackExponent b).toNat ≠ 2047 := fun heq => hlast (BitVec.eq_of_toNat_eq heq)
    omega
  have hbias := exponentBias_add
  unfold unpack
  rw [if_neg hlast]
  by_cases hzero : unpackExponent b = 0#_
  · rw [if_pos hzero]
    by_cases hnone : unpackMantissa b = 0#_
    · rw [dif_pos hnone]
      trivial
    · have hnat : (unpackExponent b).toNat = 0 := congrArg BitVec.toNat hzero
      rw [dif_neg hnone]
      change _ - (_ + (52 : Int)) + 1 ≤ 971
      omega
  · rw [if_neg hzero]
    change _ - (_ + (52 : Int)) ≤ 971
    omega

theorem isFinite_pack {f : UnpackedFloat} (h : InRange f) :
    (Float.Model.pack f).isFinite = true := by
  refine isFinite_unpack_iff.mpr ?_
  change unpackExponent (UnpackedFloat.pack Format.binary64 f) ≠ -1#_
  cases f with
  | infinity s => cases h
  | notANumber => cases h
  | zero s =>
    cases s <;> decide
  | finite s m e hm =>
    have hbias := exponentBias_add
    have hlt : (e + Format.binary64.exponentBias + 52).toNat < 2047 := by
      have hle : e ≤ 971 := h
      omega
    delta UnpackedFloat.pack
    dsimp only
    rw [if_neg (by simp only [Nat.reducePow]; omega)]
    split
    · rw [unpackExponent_packComponents]
      intro heq
      have hnat := congrArg BitVec.toNat heq
      rw [BitVec.toNat_ofNat, Nat.mod_eq_of_lt (by simp only [Nat.reducePow]; omega)] at hnat
      exact absurd hnat (Nat.ne_of_lt hlt)
    · rw [unpackExponent_packComponents]
      decide

theorem isFinite_neg {x : Float} (h : x.isFinite = true) : (-x).isFinite = true := by
  have hrange : InRange x.toModel.unpack := inRange_unpack h
  refine isFinite_pack ?_
  cases hx : x.toModel.unpack <;> rw [hx] at hrange <;> exact hrange

/-! ### Rounding -/

theorem mantissa_shift_le (em : ExtendedMantissa) (n : Nat) :
    (em >>> n).mantissa ≤ em.mantissa := by
  induction n with
  | zero => exact Nat.le_refl _
  | succ n ih =>
    change (em >>> n).mantissa / 2 ≤ em.mantissa
    omega

theorem roundedMantissa_le (em : ExtendedMantissa) : em.roundedMantissa ≤ em.mantissa + 1 := by
  obtain ⟨m, round, sticky⟩ := em
  cases round <;> cases sticky <;>
    simp only [ExtendedMantissa.roundedMantissa, ExtendedMantissa.accuracy,
      Accuracy.roundToNearestEven] <;> omega

theorem log2_le {m bits : Nat} (h : m < 2 ^ bits) : m.log2 ≤ bits := by
  by_cases hzero : m = 0
  · simp [hzero]
  · exact Nat.le_of_lt ((Nat.log2_lt hzero).mpr h)

theorem mantissa_shiftToTargetExponent_le (m : Nat) (e : Int) (a : Accuracy) :
    (shiftToTargetExponent Format.binary64 m e a).1.mantissa ≤ m := by
  refine Nat.le_trans (mantissa_shift_le _ _) (Nat.le_of_eq ?_)
  obtain _ | ordering := a
  · rfl
  · cases ordering <;> rfl

/-- Bits that are dropped make room for a greater exponent, so it grows by no more than these. -/
theorem exponent_shiftToTargetExponent_le {m bits : Nat} {e : Int} (a : Accuracy)
    (hm : m < 2 ^ bits) : (shiftToTargetExponent Format.binary64 m e a).2 ≤ max e 0 + bits := by
  have hlog := log2_le hm
  change e + ((Format.binary64.targetExponent (totalExponent m e) - e).toNat : Int) ≤ _
  rw [targetExponent_eq, totalExponent]
  omega

/-- Rounding adds at most one to the mantissa, and neither of its two shifts lifts the exponent by
more than the length of the mantissa. -/
theorem inRange_roundWithAccuracy (s : Sign) {m : Nat} {e : Int} (a : Accuracy)
    (hm : m < 2 ^ 128) (he : e ≤ 0) :
    InRange (roundWithAccuracy Format.binary64 s m e a) := by
  have hexp := exponent_shiftToTargetExponent_le (e := e) a hm
  have hmant := mantissa_shiftToTargetExponent_le m e a
  have hround := roundedMantissa_le (shiftToTargetExponent Format.binary64 m e a).1
  unfold roundWithAccuracy
  generalize shiftToTargetExponent Format.binary64 m e a = first at *
  obtain ⟨em, e'⟩ := first
  have hrounded : em.roundedMantissa < 2 ^ 129 := by
    dsimp only at hmant hround
    omega
  have hfinal := exponent_shiftToTargetExponent_le (e := e') .exact hrounded
  dsimp only
  by_cases hnone :
      (shiftToTargetExponent Format.binary64 em.roundedMantissa e' .exact).1.mantissa = 0
  · rw [dif_pos hnone]
    trivial
  · rw [dif_neg hnone]
    change _ ≤ (971 : Int)
    omega

/-- The mantissa of a short number is first made longer, by no more than the bits of a double. -/
theorem inRange_round (s : Sign) {m : Nat} (hm : m < 2 ^ 64) :
    InRange (round Format.binary64 s m 0) := by
  have hshift : (0 - Format.binary64.targetExponent (totalExponent m 0)).toNat ≤ 53 := by
    rw [targetExponent_eq, totalExponent]
    omega
  refine inRange_roundWithAccuracy s .exact ?_ (by omega)
  rw [Nat.shiftLeft_eq]
  calc
    _ < 2 ^ 64 * 2 ^ 53 := Nat.mul_lt_mul_of_lt_of_le hm (Nat.pow_le_pow_right (by decide) hshift)
      (by decide)
    _ ≤ 2 ^ 128 := by decide

theorem inRange_ofNat {n : Nat} (hn : n < 2 ^ 64) : InRange (ofNat Format.binary64 n) := by
  unfold ofNat ofInt UnpackedFloat.normalize
  split
  · exact inRange_round _ (by omega)
  · trivial
  · exact inRange_round _ (by omega)

/-- The double nearest to a 64-bit integer is finite. -/
theorem isFinite_floatOfInt (n : Int) : (floatOfInt n).isFinite = true := by
  have hword : ∀ w : UInt64, w.toFloat.isFinite = true :=
    fun w => isFinite_pack (inRange_ofNat w.toNat_lt)
  unfold floatOfInt
  split
  · exact isFinite_neg (hword _)
  · exact hword _

end MeshControl.Json
