import PocketCalc.Proofs.FloatBits
import PocketCalc.Proofs.NumberText
import PocketCalc.Proofs.Rounding

/-!
# Numbers read back

The text of a finite number is read as that number again: whole numbers are shown in full, and the
digits of all others are nearest to the position they were found for. Only negative zero loses its
sign.
-/
namespace PocketCalc

theorem Shortest.two_pow_places : Nat.pow 2 1074 = 2 ^ places := by
  have hpow (n : Nat) : Nat.pow 2 n = 2 ^ n := rfl
  have hplaces : 1074 = places := rfl
  rw [hplaces, hpow]

namespace Numeral
open Binary64 Shortest

theorem digitsValue_toDigits (n : Nat) : digitsValue (Nat.toDigits 10 n) = n :=
  Nat.ofDigitChars_ten_toDigits

/-- Digits in front count for as much as there are digits behind them. -/
theorem digitsValue_append (front back : List Char) :
    digitsValue (front ++ back) = digitsValue front * 10 ^ back.length + digitsValue back := by
  have hfold : digitsValue (front ++ back) = Nat.ofDigitChars 10 back (digitsValue front) :=
    Nat.ofDigitChars_append 0
  rw [hfold, Nat.ofDigitChars_eq_ofDigitChars_zero, Nat.mul_comm]
  rfl

theorem digitsValue_padded (length n : Nat) : digitsValue (padded length n) = n := by
  have hzeros (k : Nat) : digitsValue (List.replicate k '0') = 0 :=
    Nat.ofDigitChars_replicate_zero.trans (Nat.mul_zero _)
  rw [padded, digitsValue_append, hzeros, digitsValue_toDigits, Nat.zero_mul, Nat.zero_add]

theorem length_padded {length n : Nat} (hlength : 0 < length) (h : n < 10 ^ length) :
    (padded length n).length = length := by
  have hdigits : (Nat.toDigits 10 n).length ≤ length :=
    (Nat.length_toDigits_le_iff (by decide) hlength).2 h
  simp only [padded, List.length_append, List.length_replicate]
  omega

/-- A decimal with that many places, and so few digits, is nearest to zero. -/
theorem eq_zero_of_nearest {p digits k : Nat} (h : Nearest p (digits * 2 ^ places) (10 ^ k))
    (hk : digits.log2 + 401 < k) : p = 0 := by
  by_contra hp
  have hpos : 1 ≤ units (p - 1) + units p := Nat.le_add_left_of_le (units_pos (by omega))
  have hdigits : digits < 2 ^ (digits.log2 + 1) := Nat.lt_log2_self
  have hplaces : places = 1074 := rfl
  have hbound : 2 ^ (3 * k) < 2 ^ (k + 674) := by
    calc 2 ^ (3 * k) = 8 ^ k := by rw [Nat.pow_mul]
      _ ≤ 10 ^ k := Nat.pow_le_pow_left (by decide) k
      _ ≤ (units (p - 1) + units p) * 10 ^ k := Nat.le_mul_of_pos_left _ hpos
      _ ≤ 2 * (digits * 2 ^ places) := h.low
      _ < 2 * (2 ^ (digits.log2 + 1) * 2 ^ places) :=
        Nat.mul_lt_mul_of_pos_left
          (Nat.mul_lt_mul_of_pos_right hdigits (Nat.two_pow_pos _)) (by decide)
      _ = 2 ^ (digits.log2 + 1 + places + 1) := by rw [← Nat.pow_add, Nat.mul_comm, ← Nat.pow_succ]
      _ ≤ 2 ^ (k + 674) := Nat.pow_le_pow_right (by decide) (by omega)
  have hlt : 3 * k < k + 674 := (Nat.pow_lt_pow_iff_right (by decide)).1 hbound
  omega

/-- A decimal is read at the position it is nearest to. -/
theorem decimalPosition_eq {p digits k : Nat} (h : Nearest p (digits * 2 ^ places) (10 ^ k))
    (hp : p < infinityPosition) : decimalPosition digits (-(k : Int)) = p := by
  have hden : 0 < 10 ^ k := Nat.pow_pos (by decide)
  rw [decimalPosition, two_pow_places]
  split
  · next hdigits =>
    have hzero := nearest_units 0 hden
    rw [hdigits, Nat.zero_mul] at h
    rw [units_zero, Nat.zero_mul] at hzero
    exact hzero.unique h hden
  rw [if_neg (by omega)]
  split
  · exact (eq_zero_of_nearest h (by omega)).symm
  split
  · obtain rfl : k = 0 := by omega
    have hwhole : Nat.pow 10 (-((0 : Nat) : Int)).toNat = 1 := rfl
    rw [hwhole, Nat.mul_one]
    exact nearestPosition_eq hden h hp
  · have hback : (- -(k : Int)).toNat = k := by omega
    rw [hback]
    exact nearestPosition_eq hden h hp

end Numeral

namespace Shortest
open Binary64

/-- A unit is a fixed count of grains, since one is `2 ^ places` units and `10 ^ places` grains. -/
theorem exists_ratio :
    ∃ ratio, 0 < ratio ∧ 10 ^ places = 2 ^ places * ratio ∧ ∀ p, grains p = units p * ratio := by
  have hpow (n : Nat) : Nat.pow 5 n = 5 ^ n := rfl
  have hpos (n : Nat) : 0 < 5 ^ n := Nat.pow_pos (by decide)
  have hten (n : Nat) : 10 ^ n = 2 ^ n * 5 ^ n := Nat.mul_pow 2 5 n
  refine ⟨5 ^ places, hpos places, hten places, fun p => ?_⟩
  rw [grains, hpow]

theorem strictMono_grains : StrictMono grains := by
  obtain ⟨ratio, hratio, -, hgrains⟩ := exists_ratio
  intro p q h
  rw [hgrains, hgrains]
  exact Nat.mul_lt_mul_of_pos_right (strictMono_units h) hratio

/-- A decimal is nearest to the positions that its value in grains rounds to. -/
theorem roundsTo_iff_nearest {p w digits den : Nat} (hden : 0 < den)
    (hw : w * den = digits * 10 ^ places) :
    roundsTo p w = true ↔ Nearest p (digits * 2 ^ places) den := by
  obtain ⟨ratio, hratio, hten, hgrains⟩ := exists_ratio
  generalize 2 ^ places = one at hten ⊢
  have hdouble : 2 * w * den = 2 * (digits * one) * ratio := by
    rw [Nat.mul_assoc, hw, hten]
    ring
  have hmid (a b : Nat) : (grains a + grains b) * den = (units a + units b) * den * ratio := by
    rw [hgrains, hgrains]
    ring
  have hle {a b c d : Nat} (hac : a * den = c * ratio) (hbd : b * den = d * ratio) :
      a ≤ b ↔ c ≤ d := by
    rw [← Nat.mul_le_mul_right_iff hden, hac, hbd, Nat.mul_le_mul_right_iff hratio]
  have hlow := hle (hmid (p - 1) p) hdouble
  have hhigh := hle hdouble (hmid p (p + 1))
  have hlow_lt := hle hdouble (hmid (p - 1) p)
  have hhigh_lt := hle (hmid p (p + 1)) hdouble
  unfold roundsTo
  split
  · simp only [decide_eq_true_eq]
    constructor
    · rintro ⟨hbelow, habove⟩
      exact ⟨hlow.1 hbelow, hhigh.1 habove, fun _ => by omega, fun _ => by omega⟩
    · intro h
      exact ⟨hlow.2 h.low, hhigh.2 h.high⟩
  · simp only [decide_eq_true_eq]
    constructor
    · rintro ⟨hbelow, habove⟩
      exact ⟨by omega, by omega, fun _ => by omega, fun _ => by omega⟩
    · intro h
      have hbelow := h.low_lt (by omega)
      have habove := h.high_lt (by omega)
      exact ⟨by omega, by omega⟩

theorem roundsTo_grains (p : Nat) : roundsTo p (grains p) = true := by
  have hpred : grains (p - 1) ≤ grains p := strictMono_grains.monotone (Nat.sub_le p 1)
  have hsucc : grains p < grains (p + 1) := strictMono_grains (Nat.lt_succ_self p)
  unfold roundsTo
  split
  · simp only [decide_eq_true_eq]
    omega
  · next hodd =>
    have hlt : grains (p - 1) < grains p := strictMono_grains (by omega)
    simp only [decide_eq_true_eq]
    omega

theorem roundsTo_of_onGrid {p j n : Nat} (h : onGrid p j = some n) :
    roundsTo p (n * 10 ^ j) = true := by
  simp only [onGrid] at h
  split at h
  · next hupper =>
    obtain rfl := Option.some.inj h
    exact hupper.1
  · split at h
    · next hlower =>
      obtain rfl := Option.some.inj h
      exact hlower
    · cases h

theorem roundsTo_search (p j : Nat) : roundsTo p ((search p j).1 * 10 ^ (search p j).2) = true := by
  induction j with
  | zero => simpa [search] using roundsTo_grains p
  | succ j ih =>
    rw [search]
    split
    · next n hgrid => exact roundsTo_of_onGrid hgrid
    · exact ih

theorem positional_places (n : Nat) : positional n places = Nat.toDigits 10 n := by
  simp [positional]

/-- The shortest text is that of steps on a grid which round to the position. -/
theorem exists_positional (p : Nat) :
    ∃ n j, text p = positional n j ∧ roundsTo p (n * 10 ^ j) = true := by
  unfold text
  split
  · next hp =>
    subst hp
    have hround (n : Nat) : roundsTo 0 (0 * n) = true := by
      have hzero := roundsTo_grains 0
      rw [grains_zero] at hzero
      rw [Nat.zero_mul, hzero]
    exact ⟨0, places, (positional_places 0).symm, hround _⟩
  · exact ⟨_, _, rfl, roundsTo_search p _⟩

/-- A whole number of units is a number of steps on the grid of the whole numbers. -/
theorem grains_of_whole {p : Nat} (h : units p % 2 ^ places = 0) :
    grains p = units p / 2 ^ places * 10 ^ places := by
  obtain ⟨ratio, -, hten, hgrains⟩ := exists_ratio
  rw [hten, ← Nat.mul_assoc, Nat.div_mul_cancel (Nat.dvd_of_mod_eq_zero h), hgrains]

theorem roundsTo_whole {p : Nat} (h : units p % 2 ^ places = 0) :
    roundsTo p (units p / 2 ^ places * 10 ^ places) = true := by
  rw [← grains_of_whole h]
  exact roundsTo_grains p

theorem whole_ne_zero {p : Nat} (h : units p % 2 ^ places = 0) (hp : p ≠ 0) :
    units p / 2 ^ places ≠ 0 := by
  intro hnone
  have hunits : units p = 0 := by
    rw [← Nat.div_mul_cancel (Nat.dvd_of_mod_eq_zero h), hnone, Nat.zero_mul]
  exact hp (strictMono_units.injective (hunits.trans units_zero.symm))

end Shortest

namespace Format
open Binary64 Shortest

/-- The text of an integer is the one on the grid of the whole numbers, unless the sign of
a zero is lost. -/
theorem integer_eq {negative : Bool} {n : Nat} (h : negative = true → n ≠ 0) :
    integer negative n = signed negative (positional n places) := by
  rw [positional_places]
  cases negative with
  | false => simp [integer, signed]
  | true => simp [integer, signed, h rfl]

theorem decimal_eq (x : Float) : decimal x = signed (isNegative x) (text (position x)) := by
  unfold decimal
  cases isNegative x <;> simp [signed]

theorem isSafeInteger_iff {x : Float} : isSafeInteger x = true ↔
    units (position x) % 2 ^ places = 0 ∧ units (position x) < 2 ^ 53 * 2 ^ places := by
  have hpow : Nat.pow 2 53 = 2 ^ 53 := rfl
  rw [isSafeInteger, decide_eq_true_iff, hpow, two_pow_places]

end Format

namespace Numeral
open Binary64 Shortest

/-- A numeral is read as the number whose position its value rounds to. -/
theorem read?_of_roundsTo {n : Literal} {p w k : Nat} (hround : roundsTo p w = true)
    (hp : p < infinityPosition) (hk : (n.fraction.getD []).length = k)
    (hw : w * 10 ^ k = digitsValue (n.whole ++ n.fraction.getD []) * 10 ^ places) :
    read? n.text = some (ofPosition n.negative p) := by
  have hnearest : Nearest p (digitsValue (n.whole ++ n.fraction.getD []) * 2 ^ places) (10 ^ k) :=
    (roundsTo_iff_nearest (Nat.pow_pos (by decide)) hw).1 hround
  rw [n.read?_text, Literal.value, hk, decimalPosition_eq hnearest hp]

/-- The text of a count of steps on a grid is read as the number whose position it rounds to. -/
theorem read?_positional (negative : Bool) {p n j : Nat} (hround : roundsTo p (n * 10 ^ j) = true)
    (hp : p < infinityPosition) :
    read? (signed negative (positional n j)) = some (ofPosition negative p) := by
  unfold positional
  split
  · next hj =>
    have hscale : n * 10 ^ j = n * 10 ^ (j - places) * 10 ^ places := by
      rw [Nat.mul_assoc, ← Nat.pow_add, Nat.sub_add_cancel hj]
    let whole := Literal.ofNat negative (n * 10 ^ (j - places)) none (by simp)
    have hread : read? whole.text = some (ofPosition negative p) := by
      refine read?_of_roundsTo hround hp rfl ?_
      simpa [whole, Literal.ofNat, digitsValue_toDigits] using hscale
    simpa [whole, Literal.text, Literal.ofNat, pointed] using hread
  · next hj =>
    have hscale : n * 10 ^ j * 10 ^ (places - j) = n * 10 ^ places := by
      rw [Nat.mul_assoc, ← Nat.pow_add]
      congr
      omega
    have hunit : 0 < 10 ^ (places - j) := Nat.pow_pos (by decide)
    have hlength : (padded (places - j) (n % 10 ^ (places - j))).length = places - j :=
      length_padded (by omega) (Nat.mod_lt n hunit)
    have hdigits : digitsValue (Nat.toDigits 10 (n / 10 ^ (places - j)) ++
        padded (places - j) (n % 10 ^ (places - j))) = n := by
      rw [digitsValue_append, hlength, digitsValue_toDigits, digitsValue_padded, Nat.mul_comm]
      exact Nat.div_add_mod n _
    let decimal := Literal.ofNat negative (n / 10 ^ (places - j))
      (some (padded (places - j) (n % 10 ^ (places - j)))) (by simpa using isDigit_padded _ _)
    have hread : read? decimal.text = some (ofPosition negative p) := by
      refine read?_of_roundsTo hround hp hlength ?_
      rw [hscale]
      exact congrArg (· * 10 ^ places) hdigits.symm
    exact hread

theorem read?_integer {negative : Bool} {p : Nat} (hp : p < infinityPosition)
    (hwhole : units p % 2 ^ places = 0) (hzero : negative = true → p ≠ 0) :
    read? (Format.integer negative (units p / 2 ^ places)) = some (ofPosition negative p) := by
  have hne (hnegative : negative = true) := whole_ne_zero hwhole (hzero hnegative)
  rw [Format.integer_eq hne, read?_positional negative (roundsTo_whole hwhole) hp]

/-- A finite number that is not negative zero is read back from its text. -/
theorem read?_number {x : Float} (hfinite : x.isFinite = true) (hzero : x ≠ -0.0) :
    read? (Format.number x) = some x := by
  have hp : position x < infinityPosition := position_lt_of_isFinite hfinite
  obtain ⟨hnan, hinf⟩ := isFinite_iff.1 hfinite
  rw [Format.number, hnan, hinf]
  simp only [Bool.false_eq_true, if_false]
  split
  · next hsafe =>
    have hread := read?_integer hp (Format.isSafeInteger_iff.1 hsafe).1 fun hnegative hposition =>
      hzero (eq_negZero hposition hnegative)
    rw [ofPosition_position] at hread
    rw [two_pow_places, hread]
  · obtain ⟨n, j, htext, hround⟩ := exists_positional (position x)
    rw [Format.decimal_eq, htext, read?_positional _ hround hp, ofPosition_position]

end Numeral

namespace Format
open Binary64 Numeral

theorem number_mem_sentinels {x : Float} (h : x.isFinite = false) : number x ∈ sentinels := by
  unfold number
  split
  · simp [sentinels]
  · next hnan =>
    rw [if_pos (isInf_of_not_isFinite (by simp [h]) hnan)]
    cases isNegative x <;> simp [sentinels]

/-- The number that the text of a number is read as: zero has lost its sign. -/
def readBack (x : Float) : Float := if x = -0.0 then 0.0 else x

theorem readBack_negZero : readBack (-0.0) = 0.0 := if_pos rfl

theorem readBack_of_ne {x : Float} (h : x ≠ -0.0) : readBack x = x := if_neg h

/-- Every text is read. -/
theorem read?_number_eq (x : Float) : read? (number x) = some (readBack x) := by
  by_cases hzero : x = -0.0
  · subst hzero
    decide +kernel
  rw [readBack_of_ne hzero]
  by_cases hfinite : x.isFinite = true
  · exact read?_number hfinite hzero
  by_cases hnan : x.isNaN = true
  · have hx : x = Float.nan := by simpa [Float.isNaN_eq_decide_eq_nan] using hnan
    subst hx
    decide +kernel
  · have hinf := isInf_of_not_isFinite hfinite hnan
    have hx := ofPosition_position x
    rw [position_of_isInf hinf] at hx
    rw [number, if_neg hnan, if_pos hinf, ← hx]
    cases isNegative x <;> decide +kernel

theorem number_readBack (x : Float) : number (readBack x) = number x := by
  by_cases hzero : x = -0.0
  · subst hzero
    decide +kernel
  · rw [readBack_of_ne hzero]

theorem isFinite_readBack (x : Float) : (readBack x).isFinite = x.isFinite := by
  by_cases hzero : x = -0.0
  · subst hzero
    decide +kernel
  · rw [readBack_of_ne hzero]

/-- A number that has been read back is shown as it was, also a zero that has lost its sign. -/
theorem number_eq_of_read? {x y : Float} (hread : read? (number x) = some y) :
    number y = number x := by
  obtain rfl : readBack x = y := Option.some.inj ((read?_number_eq x).symm.trans hread)
  exact number_readBack x

end Format
end PocketCalc
