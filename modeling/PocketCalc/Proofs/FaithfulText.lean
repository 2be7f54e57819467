import PocketCalc.Proofs.Editing
import PocketCalc.Proofs.ShortestDecimal

/-!
# Faithful texts

The text of a number is read as a number that is equal to it, so numbers have the same text exactly
if they are equal. The text of a finite number is a numeral without a character too many. Whole
numbers that are shown as integers would be shown alike by their shortest decimals, but for negative
zero.
-/
namespace PocketCalc

/-- A numeral without a character too many: `-?(0|[1-9][0-9]*)(\.[0-9]*[1-9])?`. -/
structure Literal.Canonical (n : Literal) : Prop where
  whole : n.whole = ['0'] ∨ n.whole.head? ≠ some '0'
  fraction : ∀ digits ∈ n.fraction, ∃ d, digits.getLast? = some d ∧ d ≠ '0'

def IsCanonical (text : List Char) : Prop := ∃ n : Literal, n.text = text ∧ n.Canonical

theorem IsCanonical.isLiteral {text : List Char} (h : IsCanonical text) : IsLiteral text := by
  obtain ⟨n, htext, -⟩ := h
  exact ⟨n, htext⟩

theorem toDigits_eq_zero_or (n : Nat) :
    Nat.toDigits 10 n = ['0'] ∨ (Nat.toDigits 10 n).head? ≠ some '0' := by
  obtain rfl | hn := Nat.eq_zero_or_pos n
  · exact .inl rfl
  · obtain ⟨c, rest, htext, hc⟩ := toDigits_eq_cons hn
    exact .inr (by simpa [htext] using hc)

theorem getLast?_toDigits (n : Nat) : (Nat.toDigits 10 n).getLast? = some (n % 10).digitChar := by
  by_cases hn : n < 10
  · rw [Nat.toDigits_of_lt_base hn, Nat.mod_eq_of_lt hn]
    rfl
  · rw [Nat.toDigits_of_base_le (by decide) (Nat.le_of_not_lt hn), List.getLast?_concat]

theorem getLast?_padded (length n : Nat) :
    (Shortest.padded length n).getLast? = some (n % 10).digitChar := by
  rw [Shortest.padded, List.getLast?_append_of_ne_nil _ Nat.toDigits_ne_nil, getLast?_toDigits]

theorem Literal.canonical_ofNat (negative : Bool) (n : Nat) {fraction : Option (List Char)}
    (hdigits : ∀ digits ∈ fraction, ∀ c ∈ digits, c.isDigit)
    (hlast : ∀ digits ∈ fraction, ∃ d, digits.getLast? = some d ∧ d ≠ '0') :
    (Literal.ofNat negative n fraction hdigits).Canonical :=
  ⟨toDigits_eq_zero_or n, hlast⟩

theorem isCanonical_signed_toDigits (negative : Bool) (n : Nat) :
    IsCanonical (signed negative (Nat.toDigits 10 n)) :=
  ⟨_, by simp [Literal.text, Literal.ofNat, pointed],
    @Literal.canonical_ofNat negative n none (by simp) (by simp)⟩

/-- Steps on a grid are shown by a canonical numeral if their count does not end with a zero. -/
theorem isCanonical_signed_positional (negative : Bool) {n : Nat} (hn : n % 10 ≠ 0) (j : Nat) :
    IsCanonical (signed negative (Shortest.positional n j)) := by
  unfold Shortest.positional
  split
  · exact isCanonical_signed_toDigits negative _
  · next hj =>
    have hten : 10 ∣ 10 ^ (Shortest.places - j) := dvd_pow_self 10 (by omega)
    have hdigits := isDigit_padded (Shortest.places - j) (n % 10 ^ (Shortest.places - j))
    have hlast : ∃ d,
        (Shortest.padded (Shortest.places - j) (n % 10 ^ (Shortest.places - j))).getLast? =
          some d ∧ d ≠ '0' := by
      have hnonzero : ∀ d, d < 10 → d ≠ 0 → d.digitChar ≠ '0' := by decide
      refine ⟨_, getLast?_padded _ _, hnonzero _ (Nat.mod_lt _ (by decide)) ?_⟩
      rwa [Nat.mod_mod_of_dvd n hten]
    exact ⟨_, rfl, @Literal.canonical_ofNat negative _ (some _) (by simpa using hdigits)
      (by simpa using hlast)⟩

theorem isCanonical_integer (negative : Bool) (n : Nat) :
    IsCanonical (Format.integer negative n) := by
  have h := isCanonical_signed_toDigits (negative && n ≠ 0) n
  unfold Format.integer
  cases negative <;> by_cases hn : n = 0 <;> simpa [signed, hn] using h

namespace Format
open Binary64 Shortest Numeral

theorem position_pos {x : Float} (h : ¬isSafeInteger x = true) : 0 < position x := by
  by_contra hp
  have hzero : units (position x) = 0 := by rw [Nat.eq_zero_of_not_pos hp, units_zero]
  have hbound : 0 < 2 ^ 53 * 2 ^ places := Nat.mul_pos (Nat.two_pow_pos 53) (Nat.two_pow_pos places)
  exact h (isSafeInteger_iff.2 ⟨by rw [hzero, Nat.zero_mod], hzero ▸ hbound⟩)

theorem isCanonical_number {x : Float} (h : x.isFinite = true) : IsCanonical (number x) := by
  obtain ⟨hnan, hinf⟩ := isFinite_iff.1 h
  rw [number, hnan, hinf]
  simp only [Bool.false_eq_true, if_false]
  split
  · exact isCanonical_integer _ _
  · next hsafe =>
    obtain ⟨n, j, hshortest, htext⟩ := exists_isShortest (position_pos hsafe)
    rw [decimal_eq, htext]
    exact isCanonical_signed_positional _ hshortest.mod_ten_ne_zero j

theorem ne_nan {x : Float} (h : x.isNaN = false) : x ≠ Float.nan := by
  simpa [Float.isNaN_eq_decide_eq_nan] using h

theorem readBack_beq {x : Float} (h : x.isNaN = false) : (readBack x == x) = true := by
  by_cases hzero : x = -0.0
  · subst hzero
    decide +kernel
  · rw [readBack_of_ne hzero]
    exact Float.beq_self_iff.2 (ne_nan h)

/-- Numbers are equal if they are the same once they are read back. -/
theorem beq_iff_readBack {x y : Float} (hx : x.isNaN = false) (hy : y.isNaN = false) :
    (x == y) = true ↔ readBack x = readBack y := by
  have hplain : (0 : Float) = 0.0 := by decide +kernel
  have hnegative : (-0 : Float) = -0.0 := by decide +kernel
  rw [Float.beq_iff_ne_nan_and_eq, hnegative, hplain]
  constructor
  · rintro ⟨-, -, rfl | ⟨rfl, rfl⟩ | ⟨rfl, rfl⟩⟩
    · rfl
    · decide +kernel
    · decide +kernel
  · intro hread
    refine ⟨ne_nan hx, ne_nan hy, ?_⟩
    by_cases hxzero : x = -0.0
    · by_cases hyzero : y = -0.0
      · exact .inl (hxzero.trans hyzero.symm)
      · rw [hxzero, readBack_negZero, readBack_of_ne hyzero] at hread
        exact .inr (.inr ⟨hxzero, hread.symm⟩)
    · by_cases hyzero : y = -0.0
      · rw [hyzero, readBack_negZero, readBack_of_ne hxzero] at hread
        exact .inr (.inl ⟨hread, hyzero⟩)
      · rw [readBack_of_ne hxzero, readBack_of_ne hyzero] at hread
        exact .inl hread

theorem number_eq_iff {x y : Float} (hx : x.isNaN = false) (hy : y.isNaN = false) :
    number x = number y ↔ (x == y) = true := by
  rw [beq_iff_readBack hx hy]
  constructor
  · intro htext
    exact Option.some.inj ((read?_number_eq x).symm.trans (htext ▸ read?_number_eq y))
  · intro hread
    rw [← number_readBack x, hread, number_readBack]

theorem number_ne_negZero (x : Float) : number x ≠ ['-', '0'] := by
  intro htext
  have hread := read?_number_eq x
  have hnegative : read? ['-', '0'] = some (-0.0) := by decide +kernel
  rw [htext, hnegative] at hread
  have hplain := number_readBack x
  rw [← Option.some.inj hread, htext] at hplain
  revert hplain
  decide +kernel

/-- A whole number is shown alike by its digits and by its shortest decimal. -/
theorem integer_eq_decimal {x : Float} (hzero : x ≠ -0.0) (hsafe : isSafeInteger x = true) :
    integer (isNegative x) (units (position x) / Nat.pow 2 1074) = decimal x := by
  obtain ⟨hwhole, hsmall⟩ := isSafeInteger_iff.1 hsafe
  rw [two_pow_places]
  have hsign (hnegative : isNegative x = true) : units (position x) / 2 ^ places ≠ 0 :=
    whole_ne_zero hwhole fun hposition => hzero (eq_negZero hposition hnegative)
  rw [integer_eq hsign, positional_places, decimal_eq, text_of_whole hwhole hsmall]

/-- But for negative zero it makes no difference which numbers count as whole. -/
theorem number_eq_decimal {x : Float} (hfinite : x.isFinite = true) (hzero : x ≠ -0.0) :
    number x = decimal x := by
  obtain ⟨hnan, hinf⟩ := isFinite_iff.1 hfinite
  rw [number, hnan, hinf]
  simp only [Bool.false_eq_true, if_false]
  split
  · next hsafe => exact integer_eq_decimal hzero hsafe
  · rfl

/-- Of all decimals that are read at the position of a number, its shortest one
has the fewest digits. -/
theorem exists_decimal_eq {x : Float} (hfinite : x.isFinite = true) (hzero : 0 < position x) :
    ∃ n j, decimal x = signed (isNegative x) (positional n j) ∧
      ∀ (m : Nat) (e : Int), decimalPosition m e = position x →
        (Nat.toDigits 10 n).length ≤ (Nat.toDigits 10 m).length := by
  obtain ⟨n, j, hshortest, htext⟩ := exists_isShortest hzero
  refine ⟨n, j, by rw [decimal_eq, htext], fun m e hread => ?_⟩
  exact hshortest.length_le_of_nearest
    (nearest_of_decimalPosition hread hzero (position_lt_of_isFinite hfinite))

/-- What the text of a number has to do with the number. It is read as a number that is equal and
shown alike, has no character too many, and would be the same by the digits of a whole number and by
its shortest decimal, which has the fewest digits of all that are read alike. -/
structure Faithful (x : Float) : Prop where
  read : ∃ y, read? (number x) = some y ∧ number y = number x ∧ (x.isNaN = true → y.isNaN = true) ∧
    (x.isNaN = false → (y == x) = true) ∧ (x = -0.0 → y = 0.0)
  text_eq_iff : ∀ y, x.isNaN = false → y.isNaN = false → (number x = number y ↔ (x == y) = true)
  canonical : x.isFinite = true →
    IsCanonical (number x) ∧ number x ≠ ['-', '0'] ∧ 'e' ∉ number x ∧ 'E' ∉ number x
  fragment : x.isFinite = true → ∀ tokens, Expression.kindOf tokens (number x) = .number ∧
    ∃ y, Expression.tokenOf (number x) = .ok (.number y (number x)) ∧ (y == x) = true
  integer : x.isFinite = true → x ≠ -0.0 → number x = decimal x
  decimal : x.isFinite = true → 0 < position x →
    ∃ n j, decimal x = signed (isNegative x) (positional n j) ∧
      ∀ (m : Nat) (e : Int), decimalPosition m e = position x →
        (Nat.toDigits 10 n).length ≤ (Nat.toDigits 10 m).length

/-- Every number is shown faithfully. -/
theorem number_faithful (x : Float) : Faithful x where
  read := by
    refine ⟨readBack x, read?_number_eq x, number_readBack x, fun hnan => ?_, readBack_beq,
      fun hzero => ?_⟩
    · have hne : x ≠ -0.0 := by
        rintro rfl
        revert hnan
        decide +kernel
      rwa [readBack_of_ne hne]
    · rw [hzero, readBack_negZero]
  text_eq_iff := fun _ => number_eq_iff
  canonical := fun hfinite => by
    have hcanonical := isCanonical_number hfinite
    have hletter {c : Char} (hc : isTyped c = false) : c ∉ number x := fun hmem => by
      simp [hcanonical.isLiteral.isTyped c hmem] at hc
    exact ⟨hcanonical, number_ne_negZero x, hletter (by decide), hletter (by decide)⟩
  fragment := fun hfinite tokens => by
    have hliteral := (isCanonical_number hfinite).isLiteral
    exact ⟨Expression.kindOf_of_isLiteral tokens hliteral, readBack x,
      Expression.tokenOf_of_isLiteral hliteral (read?_number_eq x),
      readBack_beq (isFinite_iff.1 hfinite).1⟩
  integer := number_eq_decimal
  decimal := exists_decimal_eq

/-- The largest number shown by its digits, and the next one, which is not, are shown one apart. -/
example : number (Float.ofBits 0x433fffffffffffff) = "9007199254740991".toList ∧
    number (Float.ofBits 0x4340000000000000) = "9007199254740992".toList := by
  decide +kernel

end Format
end PocketCalc
