import PocketCalc.Proofs.ReadBack

/-!
# Shortest decimals

The search stops on the coarsest grid with a step that rounds to the position: if any step does, one
of the two beside the magnitude does. So a shortest decimal does not end with a zero, and no other
decimal that is read at the same position has fewer digits. A whole number below `2 ^ 53` has no
other whole number close enough, so its shortest decimal is the number itself.
-/
namespace PocketCalc
namespace Shortest
open Binary64

/-- What is rounded to a position lies between the midpoints to its neighbours. -/
theorem midpoints_of_roundsTo {p w : Nat} (h : roundsTo p w = true) :
    grains (p - 1) + grains p ≤ 2 * w ∧ 2 * w ≤ grains p + grains (p + 1) := by
  unfold roundsTo at h
  split at h
  · exact of_decide_eq_true h
  · have hlt := of_decide_eq_true h
    exact ⟨hlt.1.le, hlt.2.le⟩

/-- What lies behind the lower midpoint and before something that rounds to the
position rounds to it. -/
theorem roundsTo_of_le {p a b : Nat} (hlow : grains (p - 1) + grains p < 2 * a) (hab : a ≤ b)
    (hb : roundsTo p b = true) : roundsTo p a = true := by
  unfold roundsTo at hb ⊢
  split
  · next heven =>
    simp only [heven, if_true, decide_eq_true_eq] at hb ⊢
    omega
  · next hodd =>
    simp only [hodd, if_false, decide_eq_true_eq] at hb ⊢
    omega

/-- What lies between two magnitudes that round to a position rounds to it too. -/
theorem roundsTo_of_between {p a b w : Nat} (ha : roundsTo p a = true) (hb : roundsTo p b = true)
    (haw : a ≤ w) (hwb : w ≤ b) : roundsTo p w = true := by
  obtain rfl | hlt := haw.eq_or_lt
  · exact ha
  · have hlow := (midpoints_of_roundsTo ha).1
    exact roundsTo_of_le (by omega) hwb hb

/-- If a step of a grid rounds to a position, one of the two beside the magnitude does. -/
theorem exists_onGrid {p j m : Nat} (h : roundsTo p (m * 10 ^ j) = true) :
    ∃ n, onGrid p j = some n := by
  have hself := roundsTo_grains p
  have hstep : 0 < 10 ^ j := Nat.pow_pos (by decide)
  have hlow : grains p / 10 ^ j * 10 ^ j ≤ grains p := Nat.div_mul_le_self _ _
  have hhigh : grains p < (grains p / 10 ^ j + 1) * 10 ^ j := by
    rw [Nat.mul_comm]
    exact Nat.lt_mul_div_succ _ hstep
  have hbeside : roundsTo p (grains p / 10 ^ j * 10 ^ j) = true ∨
      roundsTo p ((grains p / 10 ^ j + 1) * 10 ^ j) = true := by
    obtain hm | hm := le_or_gt m (grains p / 10 ^ j)
    · exact .inl (roundsTo_of_between h hself (Nat.mul_le_mul_right _ hm) hlow)
    · exact .inr (roundsTo_of_between hself h hhigh.le (Nat.mul_le_mul_right _ hm))
  simp only [onGrid, Nat.pow_eq]
  split
  · exact ⟨_, rfl⟩
  · next hupper =>
    split
    · exact ⟨_, rfl⟩
    · next hlower =>
      obtain hlow | hup := hbeside
      · exact absurd hlow hlower
      · exact absurd ⟨hup, .inl (Bool.eq_false_of_not_eq_true hlower)⟩ hupper

theorem le_search {p j k m : Nat} (hj : j ≤ k) (h : roundsTo p (m * 10 ^ j) = true) :
    j ≤ (search p k).2 := by
  induction k with
  | zero => exact hj
  | succ k ih =>
    rw [search]
    split
    · exact hj
    · next hnone =>
      refine ih (Nat.le_of_lt_succ (Nat.lt_of_le_of_ne hj ?_))
      rintro rfl
      obtain ⟨n, hsome⟩ := exists_onGrid h
      cases hnone.symm.trans hsome

/-- A magnitude and the next one are a factor of two apart at most. -/
theorem grains_succ_le {p : Nat} (hp : 0 < p) : grains (p + 1) ≤ 2 * grains p := by
  obtain ⟨ratio, -, -, hgrains⟩ := exists_ratio
  have hsignificand : 1 ≤ significand p := by
    have hsum := spacing_mul_add_significand p
    obtain hzero | hfull := spacing_eq_zero_or p
    · rw [hzero] at hsum
      omega
    · omega
  have hunits : 2 ^ spacing p ≤ units p := Nat.le_mul_of_pos_left _ hsignificand
  rw [hgrains, hgrains, units_succ, ← Nat.mul_assoc]
  exact Nat.mul_le_mul_right ratio (by omega)

/-- Decimal places that are enough for the binary digits of twice a number. -/
theorem two_mul_lt_pow (g : Nat) : 2 * g < 10 ^ ((g.log2 + 2) * 28 / 93 + 1) := by
  let digits := g.log2 + 2
  have hdigits : 2 * g < 2 ^ digits := by
    have hlog : g < 2 ^ (g.log2 + 1) := Nat.lt_log2_self
    simp only [digits, Nat.pow_succ] at hlog ⊢
    omega
  have hexponent : digits * 28 < 93 * (digits * 28 / 93 + 1) := by omega
  have hpow : (2 ^ digits) ^ 28 < (10 ^ (digits * 28 / 93 + 1)) ^ 28 := by
    calc (2 ^ digits) ^ 28 = 2 ^ (digits * 28) := by rw [Nat.pow_mul]
      _ < 2 ^ (93 * (digits * 28 / 93 + 1)) := Nat.pow_lt_pow_right (by decide) hexponent
      _ = (2 ^ 93) ^ (digits * 28 / 93 + 1) := Nat.pow_mul 2 93 _
      _ ≤ (10 ^ 28) ^ (digits * 28 / 93 + 1) := Nat.pow_le_pow_left (by decide) _
      _ = (10 ^ (digits * 28 / 93 + 1)) ^ 28 := by rw [← Nat.pow_mul, ← Nat.pow_mul, Nat.mul_comm]
  exact hdigits.trans (lt_of_pow_lt_pow_left₀ 28 (Nat.zero_le _) hpow)

theorem two_mul_grains_lt (p : Nat) : 2 * grains p < 10 ^ coarsest p := two_mul_lt_pow (grains p)

/-- No step of a grid that is coarser still rounds to the position. -/
theorem lt_coarsest {p j m : Nat} (hp : 0 < p) (h : roundsTo p (m * 10 ^ j) = true) :
    j < coarsest p := by
  by_contra hj
  obtain ⟨hlow, hhigh⟩ := midpoints_of_roundsTo h
  have hpos : 0 < grains p := by simpa using strictMono_grains hp
  have hnext := grains_succ_le hp
  have hbound := two_mul_grains_lt p
  have hstep : 10 ^ coarsest p ≤ 10 ^ j := Nat.pow_le_pow_right (by decide) (Nat.le_of_not_lt hj)
  obtain rfl | hm := Nat.eq_zero_or_pos m
  · omega
  · have hone : 10 ^ j ≤ m * 10 ^ j := Nat.le_mul_of_pos_left _ hm
    omega

/-- Whether `n * 10 ^ j` grains round to a position while no coarser grid has a step that does. -/
structure IsShortest (p n j : Nat) : Prop where
  rounds : roundsTo p (n * 10 ^ j) = true
  coarsest : ∀ {m k : Nat}, roundsTo p (m * 10 ^ k) = true → k ≤ j

theorem isShortest_shortest {p : Nat} (hp : 0 < p) : IsShortest p (shortest p).1 (shortest p).2 :=
  ⟨roundsTo_search p (coarsest p), fun h => le_search (lt_coarsest hp h).le h⟩

/-- The text of a magnitude other than zero is that of its shortest decimal. -/
theorem exists_isShortest {p : Nat} (hp : 0 < p) :
    ∃ n j, IsShortest p n j ∧ text p = positional n j :=
  ⟨_, _, isShortest_shortest hp, if_neg (Nat.ne_of_gt hp)⟩

/-- A decimal that is nearest to a position does not lie before the lower midpoint. -/
theorem midpoint_le_of_nearest {p digits den : Nat} (h : Nearest p (digits * 2 ^ places) den) :
    (grains (p - 1) + grains p) * den ≤ 2 * (digits * 10 ^ places) := by
  obtain ⟨ratio, -, hten, hgrains⟩ := exists_ratio
  rw [hten, hgrains, hgrains]
  generalize 2 ^ places = one at h
  calc (units (p - 1) * ratio + units p * ratio) * den
    _ = (units (p - 1) + units p) * den * ratio := by ring
    _ ≤ 2 * (digits * one) * ratio := Nat.mul_le_mul_right ratio h.low
    _ = 2 * (digits * (one * ratio)) := by ring

theorem pow_le_of_lt_length {n l : Nat} (hl : 0 < l) (h : l < (Nat.toDigits 10 n).length) :
    10 ^ l ≤ n := by
  by_contra hlt
  have hlength := (Nat.length_toDigits_le_iff (by decide) hl).2 (Nat.lt_of_not_le hlt)
  omega

namespace IsShortest
variable {p n j : Nat} (h : IsShortest p n j)
include h

theorem mod_ten_ne_zero : n % 10 ≠ 0 := by
  intro hten
  have hcoarser : n / 10 * 10 ^ (j + 1) = n * 10 ^ j := by
    rw [Nat.pow_succ, Nat.mul_comm (10 ^ j), ← Nat.mul_assoc,
      Nat.div_mul_cancel (Nat.dvd_of_mod_eq_zero hten)]
  have hround := h.rounds
  rw [← hcoarser] at hround
  exact Nat.not_succ_le_self j (h.coarsest hround)

/-- A decimal that is nearest to the position is finer than the grid, or a step of it. -/
theorem le_of_nearest {m a b : Nat} (hm : Nearest p (m * 10 ^ a * 2 ^ places) (10 ^ b)) :
    a + places ≤ b + j := by
  by_contra hlt
  have hscale : m * 10 ^ (a + places - b) * 10 ^ b = m * 10 ^ a * 10 ^ places := by
    rw [Nat.mul_assoc, ← Nat.pow_add, Nat.mul_assoc, ← Nat.pow_add, Nat.sub_add_cancel (by omega)]
  have hround := (roundsTo_iff_nearest (Nat.pow_pos (by decide)) hscale).2 hm
  have hcoarsest := h.coarsest hround
  omega

/-- No decimal that is nearest to the position has fewer digits. -/
theorem length_le_of_nearest {m a b : Nat} (hm : Nearest p (m * 10 ^ a * 2 ^ places) (10 ^ b)) :
    (Nat.toDigits 10 n).length ≤ (Nat.toDigits 10 m).length := by
  by_contra hlt
  have hpos : 0 < (Nat.toDigits 10 m).length := List.length_pos_iff.2 Nat.toDigits_ne_nil
  have hsmall : m < 10 ^ (Nat.toDigits 10 m).length :=
    (Nat.length_toDigits_le_iff (by decide) hpos).1 le_rfl
  have hlarge := pow_le_of_lt_length hpos (Nat.lt_of_not_le hlt)
  generalize (Nat.toDigits 10 m).length = l at hpos hsmall hlarge
  -- a power of ten lies between the two, on a grid that is too coarse
  have hhigh : 10 ^ (l + j) ≤ n * 10 ^ j := by
    rw [Nat.pow_add]
    exact Nat.mul_le_mul_right _ hlarge
  have hlow : grains (p - 1) + grains p < 2 * 10 ^ (l + j) := by
    have hscaled : (grains (p - 1) + grains p) * 10 ^ b < 2 * 10 ^ (l + j) * 10 ^ b := by
      calc (grains (p - 1) + grains p) * 10 ^ b
          ≤ 2 * (m * 10 ^ a * 10 ^ places) := midpoint_le_of_nearest hm
        _ = 2 * (m * 10 ^ (a + places)) := by rw [Nat.mul_assoc m, ← Nat.pow_add]
        _ ≤ 2 * (m * 10 ^ (b + j)) := Nat.mul_le_mul_left 2
          (Nat.mul_le_mul_left m (Nat.pow_le_pow_right (by decide) (h.le_of_nearest hm)))
        _ < 2 * (10 ^ l * 10 ^ (b + j)) := Nat.mul_lt_mul_of_pos_left
          (Nat.mul_lt_mul_of_pos_right hsmall (Nat.pow_pos (by decide))) (by decide)
        _ = 2 * 10 ^ (l + j) * 10 ^ b := by ring
    exact Nat.lt_of_mul_lt_mul_right hscaled
  have hround := roundsTo_of_le hlow hhigh h.rounds
  rw [← Nat.one_mul (10 ^ (l + j))] at hround
  have hcoarsest := h.coarsest hround
  omega

end IsShortest

/-- A magnitude of no more than 53 binary digits before a place is spaced by that place at most. -/
theorem spacing_le {p k : Nat} (h : units p < 2 ^ 53 * 2 ^ k) : spacing p ≤ k := by
  by_contra hlt
  have hfull : 2 ^ 52 ≤ significand p := (spacing_eq_zero_or p).resolve_left (by omega)
  have hunits : 2 ^ 53 * 2 ^ k ≤ units p := by
    calc 2 ^ 53 * 2 ^ k = 2 ^ 52 * 2 ^ (k + 1) := by ring
      _ ≤ significand p * 2 ^ spacing p :=
        Nat.mul_le_mul hfull (Nat.pow_le_pow_right (by decide) (by omega))
      _ = units p := by rw [units, Nat.pow_eq]
  omega

theorem grains_succ_le_add {p : Nat} (h : spacing p ≤ places) :
    grains (p + 1) ≤ grains p + 10 ^ places := by
  obtain ⟨ratio, -, hten, hgrains⟩ := exists_ratio
  rw [hten, hgrains, hgrains, units_succ, ← Nat.add_mul]
  exact Nat.mul_le_mul_right ratio (Nat.add_le_add_left (Nat.pow_le_pow_right (by decide) h) _)

theorem grains_le_pred_add {p : Nat} (h : spacing p ≤ places) :
    grains p ≤ grains (p - 1) + 10 ^ places := by
  cases p with
  | zero =>
    rw [grains_zero]
    exact Nat.zero_le _
  | succ p =>
    have hmono : spacing p ≤ spacing (p + 1) :=
      Nat.sub_le_sub_right (Nat.div_le_div_right p.le_succ) 1
    exact grains_succ_le_add (hmono.trans h)

/-- Among whole numbers as small as these, none but the magnitude itself rounds to its position. -/
theorem eq_of_roundsTo {p n whole : Nat} (hspacing : spacing p ≤ places)
    (hwhole : grains p = whole * 10 ^ places) (h : roundsTo p (n * 10 ^ places) = true) :
    n = whole := by
  obtain ⟨hlow, hhigh⟩ := midpoints_of_roundsTo h
  have hpred := grains_le_pred_add hspacing
  have hsucc := grains_succ_le_add hspacing
  have hone : 0 < 10 ^ places := Nat.pow_pos (by decide)
  generalize 10 ^ places = one at *
  have hstep {a b : Nat} (hab : a < b) : a * one + one ≤ b * one := by
    rw [← Nat.succ_mul]
    exact Nat.mul_le_mul_right one hab
  obtain hlt | rfl | hlt := lt_trichotomy n whole
  · have := hstep hlt
    omega
  · rfl
  · have := hstep hlt
    omega

/-- A whole number below `2 ^ 53` is its own shortest decimal. -/
theorem text_of_whole {p : Nat} (hwhole : units p % 2 ^ places = 0)
    (hsmall : units p < 2 ^ 53 * 2 ^ places) :
    text p = Nat.toDigits 10 (units p / 2 ^ places) := by
  obtain rfl | hp := Nat.eq_zero_or_pos p
  · have hnone : units 0 / 2 ^ places = 0 := by rw [units_zero, Nat.zero_div]
    have htext : text 0 = ['0'] := if_pos rfl
    rw [hnone, htext, Nat.toDigits_zero]
  · obtain ⟨n, j, hshortest, htext⟩ := exists_isShortest hp
    have hj : places ≤ j := hshortest.coarsest (roundsTo_whole hwhole)
    have hround := hshortest.rounds
    have hscale : n * 10 ^ j = n * 10 ^ (j - places) * 10 ^ places := by
      rw [Nat.mul_assoc, ← Nat.pow_add, Nat.sub_add_cancel hj]
    rw [hscale] at hround
    have hvalue := eq_of_roundsTo (spacing_le hsmall) (grains_of_whole hwhole) hround
    rw [htext, positional, if_pos hj, Nat.pow_eq, hvalue]

end Shortest

namespace Numeral
open Binary64 Shortest

/-- A decimal that is read at a position other than the first is nearest to it. -/
theorem nearest_of_decimalPosition {p digits : Nat} {e : Int} (h : decimalPosition digits e = p)
    (hpos : 0 < p) (hp : p < infinityPosition) :
    Nearest p (digits * 10 ^ e.toNat * 2 ^ places) (10 ^ (-e).toNat) := by
  rw [decimalPosition, two_pow_places] at h
  split at h
  · omega
  split at h
  · omega
  split at h
  · omega
  split at h
  · have hback : (-e).toNat = 0 := by omega
    rw [hback, Nat.pow_zero]
    exact nearest_of_nearestPosition Nat.one_pos h hp
  · have hnone : e.toNat = 0 := by omega
    rw [hnone, Nat.pow_zero, Nat.mul_one]
    exact nearest_of_nearestPosition (Nat.pow_pos (by decide)) h hp

end Numeral
end PocketCalc
