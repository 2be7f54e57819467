import Mathlib.Order.Monotone.Basic
import Mathlib.Tactic.Ring
import PocketCalc.Number.Binary64

/-!
# Rounding to a position

Magnitudes grow strictly with their positions. A ratio is nearest to a position if it lies between
the midpoints to the two neighbours, where a midpoint itself belongs to the even position. There is
one such position for every ratio, and rounding finds it.
-/
namespace PocketCalc.Binary64

theorem spacing_mul_add_significand (p : Nat) : spacing p * 2 ^ 52 + significand p = p := by
  simp only [significand, spacing, Nat.pow_eq]
  omega

theorem significand_lt (p : Nat) : significand p < 2 ^ 53 := by
  simp only [significand, spacing, Nat.pow_eq]
  omega

/-- Only the smallest spacing has significands with fewer than 53 digits. -/
theorem spacing_eq_zero_or (p : Nat) : spacing p = 0 ∨ 2 ^ 52 ≤ significand p := by
  simp only [significand, spacing, Nat.pow_eq]
  omega

/-- A significand may have one more than its largest value, which is the first magnitude
of the next spacing. -/
theorem units_mul_add {s r : Nat} (hr : r ≤ 2 ^ 53) (hs : s = 0 ∨ 2 ^ 52 ≤ r) :
    units (s * 2 ^ 52 + r) = r * 2 ^ s := by
  by_cases hlast : r = 2 ^ 53
  · subst hlast
    have hspacing : spacing (s * 2 ^ 52 + 2 ^ 53) = s + 1 := by
      simp only [spacing, Nat.pow_eq]
      omega
    have hsignificand : significand (s * 2 ^ 52 + 2 ^ 53) = 2 ^ 52 := by
      simp only [significand, hspacing, Nat.pow_eq]
      omega
    have hdouble : 2 ^ 52 * 2 ^ (s + 1) = 2 ^ 53 * 2 ^ s := by ring
    rw [units, hspacing, hsignificand, Nat.pow_eq, hdouble]
  · have hspacing : spacing (s * 2 ^ 52 + r) = s := by
      simp only [spacing, Nat.pow_eq]
      omega
    have hsignificand : significand (s * 2 ^ 52 + r) = r := by
      simp only [significand, hspacing, Nat.pow_eq]
      omega
    rw [units, hspacing, hsignificand, Nat.pow_eq]

theorem units_succ (p : Nat) : units (p + 1) = units p + 2 ^ spacing p := by
  have hlt := significand_lt p
  have hnext : units (spacing p * 2 ^ 52 + (significand p + 1)) =
      (significand p + 1) * 2 ^ spacing p :=
    units_mul_add (by omega) ((spacing_eq_zero_or p).imp_right (by omega))
  rw [← Nat.add_assoc, spacing_mul_add_significand, Nat.succ_mul] at hnext
  exact hnext

theorem strictMono_units : StrictMono units :=
  strictMono_nat_of_lt_succ fun p => by
    rw [units_succ]
    exact Nat.lt_add_of_pos_right (Nat.two_pow_pos _)

theorem units_pos {p : Nat} (h : 0 < p) : 0 < units p := by
  simpa using strictMono_units h

/-- Whether `num / den` units are nearest to position `p`. A midpoint belongs
to the even position. -/
structure Nearest (p num den : Nat) : Prop where
  low : (units (p - 1) + units p) * den ≤ 2 * num
  high : 2 * num ≤ (units p + units (p + 1)) * den
  low_lt : p % 2 = 1 → (units (p - 1) + units p) * den < 2 * num
  high_lt : p % 2 = 1 → 2 * num < (units p + units (p + 1)) * den

theorem nearest_units (p : Nat) {den : Nat} (hden : 0 < den) : Nearest p (units p * den) den := by
  have hdouble : 2 * (units p * den) = (units p + units p) * den := by rw [Nat.two_mul, Nat.add_mul]
  have hpred : units (p - 1) ≤ units p := strictMono_units.monotone (Nat.sub_le p 1)
  have hsucc : units p < units (p + 1) := strictMono_units (Nat.lt_succ_self p)
  have hodd (h : p % 2 = 1) : units (p - 1) < units p := strictMono_units (by omega)
  constructor
  · rw [hdouble]
    exact Nat.mul_le_mul_right den (by omega)
  · rw [hdouble]
    exact Nat.mul_le_mul_right den (by omega)
  · intro h
    have := hodd h
    rw [hdouble]
    exact Nat.mul_lt_mul_of_pos_right (by omega) hden
  · intro h
    rw [hdouble]
    exact Nat.mul_lt_mul_of_pos_right (by omega) hden

namespace Nearest
variable {p q num den : Nat}

/-- Two positions share a midpoint at most, and it belongs to one of them. -/
theorem not_lt (h : Nearest p num den) (h' : Nearest q num den) (hden : 0 < den) : ¬p < q := by
  intro hlt
  have hpred : units p ≤ units (q - 1) := strictMono_units.monotone (by omega)
  have hsucc : units (p + 1) ≤ units q := strictMono_units.monotone hlt
  have hmid : (units p + units (p + 1)) * den ≤ (units (q - 1) + units q) * den :=
    Nat.mul_le_mul_right den (by omega)
  have hhigh := h.high
  have hlow := h'.low
  by_cases hnext : q = p + 1
  · obtain hodd | hodd : p % 2 = 1 ∨ q % 2 = 1 := by omega
    · have := h.high_lt hodd
      omega
    · have := h'.low_lt hodd
      omega
  · have hbetween : units (p + 1) < units q := strictMono_units (by omega)
    have hgap : (units p + units (p + 1)) * den < (units (q - 1) + units q) * den :=
      Nat.mul_lt_mul_of_pos_right (by omega) hden
    omega

theorem unique (h : Nearest p num den) (h' : Nearest q num den) (hden : 0 < den) : p = q :=
  Nat.le_antisymm (Nat.le_of_not_lt (h'.not_lt h hden)) (Nat.le_of_not_lt (h.not_lt h' hden))

end Nearest

/-- Whether a whole number is off from `num / den` by a half at most, and by less if it is odd. -/
structure IsRounding (r num den : Nat) : Prop where
  low : 2 * (r * den) ≤ 2 * num + den
  high : 2 * num ≤ 2 * (r * den) + den
  low_lt : r % 2 = 1 → 2 * (r * den) < 2 * num + den
  high_lt : r % 2 = 1 → 2 * num < 2 * (r * den) + den

theorem isRounding_roundHalfEven (num : Nat) {den : Nat} (hden : 0 < den) :
    IsRounding (roundHalfEven num den) num den := by
  have hsplit : num / den * den + num % den = num := by
    rw [Nat.mul_comm]
    exact Nat.div_add_mod num den
  have hmod := Nat.mod_lt num hden
  have hsucc : (num / den + 1) * den = num / den * den + den := Nat.succ_mul _ _
  unfold roundHalfEven
  split
  · constructor <;> omega
  · split
    · constructor <;> omega
    · obtain heven | hodd := Nat.mod_two_eq_zero_or_one (num / den)
      · rw [heven, Nat.add_zero]
        constructor <;> omega
      · rw [hodd]
        constructor <;> omega

theorem roundHalfEven_le {num den k : Nat} (hden : 0 < den) (h : num ≤ k * den) :
    roundHalfEven num den ≤ k := by
  have hlow := (isRounding_roundHalfEven num hden).low
  by_contra hlt
  have hnext : (k + 1) * den ≤ roundHalfEven num den * den := Nat.mul_le_mul_right den (by omega)
  rw [Nat.succ_mul] at hnext
  omega

theorem le_roundHalfEven {num den k : Nat} (hden : 0 < den) (h : k * den ≤ num) :
    k ≤ roundHalfEven num den := by
  have hhigh := (isRounding_roundHalfEven num hden).high
  by_contra hlt
  have hnext : (roundHalfEven num den + 1) * den ≤ k * den := Nat.mul_le_mul_right den (by omega)
  rw [Nat.succ_mul] at hnext
  omega

section
variable {s r num den : Nat} (hr : r ≤ 2 ^ 53) (hs : s = 0 ∨ 2 ^ 52 ≤ r)
include hr hs

/-- The midpoint to the next position is half a spacing further, or more. -/
theorem le_midpoint_succ (den : Nat) : 2 * (r * (den * 2 ^ s)) + den * 2 ^ s ≤
    (units (s * 2 ^ 52 + r) + units (s * 2 ^ 52 + r + 1)) * den := by
  have hspacing : 2 ^ s ≤ 2 ^ spacing (s * 2 ^ 52 + r) := by
    refine Nat.pow_le_pow_right (by decide) ?_
    simp only [spacing, Nat.pow_eq]
    omega
  calc 2 * (r * (den * 2 ^ s)) + den * 2 ^ s = (r * 2 ^ s + (r * 2 ^ s + 2 ^ s)) * den := by ring
    _ ≤ (units (s * 2 ^ 52 + r) + units (s * 2 ^ 52 + r + 1)) * den := by
      rw [units_succ, units_mul_add hr hs]
      exact Nat.mul_le_mul_right den (by omega)

/-- The midpoint to the position before is half a spacing back. Below the first magnitude of a
spacing it is closer, but that position is even. -/
theorem midpoint_pred_le (hfull : s ≠ 0 → 2 ^ 52 * (den * 2 ^ s) ≤ num) :
    (units (s * 2 ^ 52 + r - 1) + units (s * 2 ^ 52 + r)) * den + den * 2 ^ s ≤
        2 * (r * (den * 2 ^ s)) ∨
      r % 2 = 0 ∧ (units (s * 2 ^ 52 + r - 1) + units (s * 2 ^ 52 + r)) * den ≤ 2 * num := by
  have hunits : units (s * 2 ^ 52 + r) = r * 2 ^ s := units_mul_add hr hs
  rw [hunits]
  by_cases hfirst : r = 0 ∨ s ≠ 0 ∧ r = 2 ^ 52
  · right
    obtain rfl | ⟨hne, rfl⟩ := hfirst
    · obtain rfl : s = 0 := by omega
      simp
    · have hpred : units (s * 2 ^ 52 + 2 ^ 52 - 1) ≤ 2 ^ 52 * 2 ^ s := by
        rw [← hunits]
        exact strictMono_units.monotone (Nat.sub_le _ 1)
      refine ⟨by decide, ?_⟩
      calc (units (s * 2 ^ 52 + 2 ^ 52 - 1) + 2 ^ 52 * 2 ^ s) * den
          ≤ (2 ^ 52 * 2 ^ s + 2 ^ 52 * 2 ^ s) * den := Nat.mul_le_mul_right den (by omega)
        _ = 2 * (2 ^ 52 * (den * 2 ^ s)) := by ring
        _ ≤ 2 * num := Nat.mul_le_mul_left 2 (hfull hne)
  · left
    obtain ⟨k, rfl⟩ : ∃ k, r = k + 1 := ⟨r - 1, by omega⟩
    have hpred : units (s * 2 ^ 52 + k) = k * 2 ^ s := units_mul_add (by omega) (by omega)
    rw [← Nat.add_assoc, Nat.add_sub_cancel, hpred]
    exact Nat.le_of_eq (by ring)

/-- What a count of spacings is rounded from is nearest to its position. -/
theorem nearest_of_isRounding (hfull : s ≠ 0 → 2 ^ 52 * (den * 2 ^ s) ≤ num)
    (h : IsRounding r num (den * 2 ^ s)) : Nearest (s * 2 ^ 52 + r) num den := by
  obtain ⟨hlow, hhigh, hlow_lt, hhigh_lt⟩ := h
  have habove := le_midpoint_succ hr hs den
  have hbelow := midpoint_pred_le hr hs hfull
  have hparity : (s * 2 ^ 52 + r) % 2 = r % 2 := by omega
  constructor
  · omega
  · omega
  · omega
  · omega

end

/-- The spacing at the magnitude of a ratio. -/
def ratioSpacing (num den : Nat) : Nat := (num / den).log2 - 52

section
variable {num den : Nat} (hden : 0 < den)
include hden

/-- A ratio has 53 digits before the point at most, counted in its spacing. -/
theorem lt_ratioSpacing : num < 2 ^ 53 * (den * 2 ^ ratioSpacing num den) := by
  have hlog : (num / den).log2 + 1 ≤ 53 + ratioSpacing num den := by
    unfold ratioSpacing
    omega
  have hquotient : num / den < 2 ^ (53 + ratioSpacing num den) :=
    Nat.lt_of_lt_of_le Nat.lt_log2_self (Nat.pow_le_pow_right (by decide) hlog)
  calc num < 2 ^ (53 + ratioSpacing num den) * den := (Nat.div_lt_iff_lt_mul hden).1 hquotient
    _ = 2 ^ 53 * (den * 2 ^ ratioSpacing num den) := by ring

/-- It has all of them unless its spacing is the smallest. -/
theorem ratioSpacing_le (hs : ratioSpacing num den ≠ 0) :
    2 ^ 52 * (den * 2 ^ ratioSpacing num den) ≤ num := by
  have hlog : (num / den).log2 = 52 + ratioSpacing num den := by
    unfold ratioSpacing at hs ⊢
    omega
  have hne : num / den ≠ 0 := by
    intro hzero
    simp [hzero] at hlog
    omega
  have hquotient : 2 ^ (52 + ratioSpacing num den) ≤ num / den := hlog ▸ Nat.log2_self_le hne
  calc 2 ^ 52 * (den * 2 ^ ratioSpacing num den) = 2 ^ (52 + ratioSpacing num den) * den := by ring
    _ ≤ num := (Nat.le_div_iff_mul_le hden).1 hquotient

theorem nearest_round : Nearest (ratioSpacing num den * 2 ^ 52 +
    roundHalfEven num (den * 2 ^ ratioSpacing num den)) num den := by
  have hwidth : 0 < den * 2 ^ ratioSpacing num den := Nat.mul_pos hden (Nat.two_pow_pos _)
  have hbound : num < 2 ^ 53 * (den * 2 ^ ratioSpacing num den) := lt_ratioSpacing hden
  have hlast := roundHalfEven_le hwidth hbound.le
  have hfirst : ratioSpacing num den = 0 ∨
      2 ^ 52 ≤ roundHalfEven num (den * 2 ^ ratioSpacing num den) :=
    (eq_or_ne _ 0).imp_right fun hs => le_roundHalfEven hwidth (ratioSpacing_le hden hs)
  exact nearest_of_isRounding hlast hfirst (ratioSpacing_le hden)
    (isRounding_roundHalfEven num hwidth)

/-- Rounding finds the position that a ratio is nearest to. -/
theorem nearestPosition_eq {p : Nat} (h : Nearest p num den) (hp : p < infinityPosition) :
    nearestPosition num den = p := by
  have hround : nearestPosition num den = min (ratioSpacing num den * 2 ^ 52 +
    roundHalfEven num (den * 2 ^ ratioSpacing num den)) infinityPosition := rfl
  rw [hround, (nearest_round hden).unique h hden]
  exact Nat.min_eq_left (Nat.le_of_lt hp)

/-- A ratio is nearest to the position that rounding finds, unless it is out of range. -/
theorem nearest_of_nearestPosition {p : Nat} (h : nearestPosition num den = p)
    (hp : p < infinityPosition) : Nearest p num den := by
  have hround : min (ratioSpacing num den * 2 ^ 52 +
    roundHalfEven num (den * 2 ^ ratioSpacing num den)) infinityPosition = p := h
  have hposition : ratioSpacing num den * 2 ^ 52 +
      roundHalfEven num (den * 2 ^ ratioSpacing num den) = p := by omega
  exact hposition ▸ nearest_round hden

end

end PocketCalc.Binary64
