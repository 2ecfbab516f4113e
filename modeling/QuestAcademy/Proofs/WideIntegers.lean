import Mathlib
import QuestAcademy.Decimal.Binary

namespace QuestAcademy.Decimal

open Float.Model (UnpackedFloat Format)
open Float.Model.UnpackedFloat hiding pack

/-- Finite, and with an exponent that the format has room for. -/
def Packable : UnpackedFloat → Prop
  | .finite _ _ exponent _ => exponent ≤ 971
  | .zero _ => True
  | .infinity _ | .notANumber => False

theorem exponentBias_binary64 : Format.binary64.exponentBias = 1023 := by decide

theorem isFinite_unpack {bits : BitVec Format.binary64.numBits}
    (h : unpackExponent bits ≠ -1#_) :
    (unpack Format.binary64 bits).isFinite = true := by
  unfold unpack
  simp only [if_neg h]
  split
  · split <;> rfl
  · rfl

theorem isFinite_pack {x : UnpackedFloat} (h : Packable x) :
    (Float.Model.pack x).isFinite = true := by
  apply isFinite_unpack
  cases x with
  | infinity sign => cases h
  | notANumber => cases h
  | zero sign =>
      change unpackExponent (packComponents _ _ _ _) ≠ _
      rw [unpackExponent_packComponents]
      decide
  | finite sign mantissa exponent hpos =>
      change exponent ≤ 971 at h
      change unpackExponent (UnpackedFloat.pack Format.binary64 _) ≠ _
      unfold UnpackedFloat.pack
      simp only
      split
      · rename_i hroom
        rw [exponentBias_binary64] at hroom
        omega
      · split
        -- An exponent of nothing but ones would stand for 972, one above the greatest there is.
        · rw [unpackExponent_packComponents, exponentBias_binary64]
          intro hexponent
          have hbits := congrArg BitVec.toNat hexponent
          change (exponent + (1023 : Nat) + (52 : Nat)).toNat % 2048 = 2047 at hbits
          omega
        · rw [unpackExponent_packComponents]
          decide

theorem packable_unpack {x : Float.Model} (h : x.isFinite = true) : Packable x.unpack := by
  unfold Float.Model.isFinite Float.Model.unpack unpack at h
  unfold Float.Model.unpack unpack
  simp only at h ⊢
  split
  · rename_i hexponent
    rw [if_pos hexponent] at h
    split at h <;> cases h
  · split
    · split
      · trivial
      · change _ ≤ (971 : Int)
        rename_i hexponent _
        rw [hexponent, exponentBias_binary64]
        decide
    · rename_i hfull _
      change _ ≤ (971 : Int)
      rw [exponentBias_binary64]
      let bits : BitVec 11 := @unpackExponent Format.binary64 x.toBits.toBitVec
      have hbelow : bits.toNat < 2048 := bits.isLt
      have hbits : bits.toNat ≠ 2047 := fun hall => hfull (BitVec.eq_of_toNat_eq hall)
      change (bits.toNat : Int) - ((1023 : Nat) + (52 : Nat)) ≤ 971
      omega

theorem isFinite_neg {x : Float} (h : x.isFinite = true) : (-x).isFinite = true := by
  have hx := packable_unpack h
  apply isFinite_pack
  cases hunpack : x.toModel.unpack with
  | infinity sign =>
      rw [hunpack] at hx
      cases hx
  | notANumber =>
      rw [hunpack] at hx
      cases hx
  | zero sign => trivial
  | finite sign mantissa exponent hpos =>
      rw [hunpack] at hx
      exact hx

theorem log2_le_of_lt {n k : Nat} (h : n < 2 ^ k) : n.log2 ≤ k := by
  by_cases hzero : n = 0
  · simp [hzero]
  · exact Nat.le_of_lt ((Nat.log2_lt hzero).mpr h)

theorem mantissa_shiftRight (extended : ExtendedMantissa) (count : Nat) :
    (extended >>> count).mantissa ≤ extended.mantissa := by
  induction count with
  | zero => exact Nat.le_refl _
  | succ count ih => exact Nat.le_trans (Nat.div_le_self _ 2) ih

theorem roundedMantissa_le (extended : ExtendedMantissa) :
    extended.roundedMantissa ≤ extended.mantissa + 1 := by
  obtain ⟨mantissa, round, sticky⟩ := extended
  cases round <;> cases sticky <;>
    simp only [ExtendedMantissa.roundedMantissa, ExtendedMantissa.accuracy,
      Accuracy.roundToNearestEven] <;>
    omega

theorem shiftToTargetExponent_le {mantissa bits : Nat} (hbits : mantissa < 2 ^ bits)
    (exponent : Int) (hexponent : -1074 ≤ exponent) :
    (shiftToTargetExponent Format.binary64 mantissa exponent .exact).1.mantissa ≤ mantissa ∧
      -1074 ≤ (shiftToTargetExponent Format.binary64 mantissa exponent .exact).2 ∧
      (shiftToTargetExponent Format.binary64 mantissa exponent .exact).2 ≤ exponent + bits := by
  have hlog := log2_le_of_lt hbits
  refine ⟨mantissa_shiftRight _ _, ?_⟩
  simp only [shiftToTargetExponent, shiftToExponent, Format.targetExponent,
    Float.Model.totalExponent, Format.mantissaBits, Format.minExponent]
  omega

theorem packable_roundWithAccuracy {mantissa bits : Nat} (hbits : mantissa < 2 ^ bits)
    (hfew : bits ≤ 300) (sign : Sign) {exponent : Int} (hlow : -1074 ≤ exponent)
    (hhigh : exponent ≤ 0) :
    Packable (roundWithAccuracy Format.binary64 sign mantissa exponent .exact) := by
  obtain ⟨hless, hlow₁, hhigh₁⟩ := shiftToTargetExponent_le hbits exponent hlow
  unfold roundWithAccuracy
  simp only
  generalize shiftToTargetExponent Format.binary64 mantissa exponent .exact = first at *
  have hrounded : first.1.roundedMantissa < 2 ^ (bits + 1) := by
    have := roundedMantissa_le first.1
    rw [Nat.pow_succ]
    omega
  obtain ⟨-, -, hhigh₂⟩ := shiftToTargetExponent_le hrounded first.2 hlow₁
  split
  · trivial
  · change _ ≤ (971 : Int)
    omega

/-- A mantissa of 64 bits first gets up to 52 more, so that none has to be made up later. -/
theorem packable_round {mantissa : Nat} (hlong : mantissa < 2 ^ 64) (sign : Sign) :
    Packable (round Format.binary64 sign mantissa 0) := by
  have hlog := log2_le_of_lt hlong
  unfold UnpackedFloat.round decreaseExponent
  simp only
  generalize htarget :
    Format.binary64.targetExponent (Float.Model.totalExponent mantissa 0) = target
  have hlow : -52 ≤ target ∧ target ≤ 971 := by
    rw [← htarget]
    simp only [Format.targetExponent, Float.Model.totalExponent, Format.mantissaBits,
      Format.minExponent]
    omega
  have hbits : mantissa <<< (0 - target).toNat < 2 ^ 116 := by
    rw [Nat.shiftLeft_eq]
    calc mantissa * 2 ^ (0 - target).toNat
        < 2 ^ 64 * 2 ^ (0 - target).toNat := Nat.mul_lt_mul_of_pos_right hlong (Nat.two_pow_pos _)
      _ ≤ 2 ^ 64 * 2 ^ 52 := Nat.mul_le_mul_left _ (Nat.pow_le_pow_right (by decide) (by omega))
  exact packable_roundWithAccuracy hbits (by decide) sign (by omega) (by omega)

theorem isFinite_ofNat (n : Nat) : (ofNat n).isFinite = true := by
  apply isFinite_pack
  have hlong : n.toUInt64.toNat < 2 ^ 64 := n.toUInt64.toNat_lt
  unfold ofUInt64 UnpackedFloat.ofNat UnpackedFloat.ofInt UnpackedFloat.normalize
  split
  · exact packable_round (by omega) _
  · trivial
  · exact packable_round (by omega) _

theorem isFinite_ofInt (i : Int) : (ofInt i).isFinite = true := by
  unfold ofInt
  split
  · exact isFinite_neg (isFinite_ofNat _)
  · exact isFinite_ofNat _

end QuestAcademy.Decimal
