import Mathlib
import PocketCalc.Number.Binary64

/-!
# Numbers and their bits

A number is taken apart into its sign and its position, and put together again without a loss. The
positions of finite numbers are those below that of infinity.
-/
namespace PocketCalc.Binary64
open Float.Model Float.Model.UnpackedFloat

/-- The sign and the position of a number make up the number. -/
theorem ofPosition_position (x : Float) : ofPosition (isNegative x) (position x) = x := by
  have hlt : x.toBits.toNat < 2 ^ 64 := x.toBits.toNat_lt
  have hbits :
      (if isNegative x then Nat.pow 2 63 + position x else position x) = x.toBits.toNat := by
    simp only [isNegative, position, decide_eq_true_eq, Nat.pow_eq]
    split <;> omega
  rw [ofPosition, hbits, UInt64.ofNat_toNat, Float.ofBits_toBits]

theorem toNat_unpackExponent (b : BitVec Format.binary64.numBits) :
    (unpackExponent b).toNat = b.toNat / 2 ^ 52 % 2 ^ 11 := by
  simp [unpackExponent_def, Nat.shiftRight_eq_div_pow]

theorem toNat_unpackMantissa (b : BitVec Format.binary64.numBits) :
    (unpackMantissa b).toNat = b.toNat % 2 ^ 52 := by
  simp [unpackMantissa_def]

theorem position_lt_of_isFinite {x : Float} (h : x.isFinite = true) :
    position x < infinityPosition := by
  let bits : BitVec Format.binary64.numBits := x.toBits.toBitVec
  have hfinite : (UnpackedFloat.unpack Format.binary64 bits).isFinite = true := h
  have hexponent : unpackExponent bits ≠ -1#11 := by
    intro he
    rw [UnpackedFloat.unpack, if_pos he] at hfinite
    split at hfinite <;> cases hfinite
  have hne : bits.toNat / 2 ^ 52 % 2 ^ 11 ≠ 2 ^ 11 - 1 := by
    rw [← toNat_unpackExponent bits]
    exact fun hnat => hexponent (BitVec.eq_of_toNat_eq hnat)
  have hposition : position x = bits.toNat % 2 ^ 63 := rfl
  have hinfinity : infinityPosition = 2047 * 2 ^ 52 := rfl
  omega

/-- The infinities are at the position behind all finite numbers. -/
theorem position_of_isInf {x : Float} (h : x.isInf = true) : position x = infinityPosition := by
  let bits : BitVec Format.binary64.numBits := x.toBits.toBitVec
  have hinf : (UnpackedFloat.unpack Format.binary64 bits).isInf = true := h
  have hfields : unpackExponent bits = -1#11 ∧ unpackMantissa bits = 0#52 := by
    simp only [UnpackedFloat.unpack] at hinf
    split at hinf
    · next hexponent =>
      split at hinf
      · next hmantissa => exact ⟨hexponent, hmantissa⟩
      · cases hinf
    · split at hinf
      · split at hinf <;> cases hinf
      · cases hinf
  have hexponent : bits.toNat / 2 ^ 52 % 2 ^ 11 = 2047 := by
    rw [← toNat_unpackExponent, hfields.1]
    rfl
  have hmantissa : bits.toNat % 2 ^ 52 = 0 := by
    rw [← toNat_unpackMantissa, hfields.2]
    rfl
  have hposition : position x = bits.toNat % 2 ^ 63 := rfl
  have hinfinity : infinityPosition = 2047 * 2 ^ 52 := rfl
  omega

theorem isFinite_iff {x : Float} : x.isFinite = true ↔ x.isNaN = false ∧ x.isInf = false := by
  change x.toModel.unpack.isFinite = true ↔
    x.toModel.unpack.isNaN = false ∧ x.toModel.unpack.isInf = false
  cases x.toModel.unpack <;>
    simp [UnpackedFloat.isFinite, UnpackedFloat.isNaN, UnpackedFloat.isInf]

theorem isInf_of_not_isFinite {x : Float} (hfinite : ¬x.isFinite = true) (hnan : ¬x.isNaN = true) :
    x.isInf = true := by
  by_contra hinf
  exact hfinite (isFinite_iff.2 ⟨by simpa using hnan, by simpa using hinf⟩)

theorem eq_negZero {x : Float} (hp : position x = 0) (hn : isNegative x = true) : x = -0.0 := by
  have hx := ofPosition_position x
  rw [hp, hn] at hx
  rw [← hx]
  decide +kernel

end PocketCalc.Binary64
