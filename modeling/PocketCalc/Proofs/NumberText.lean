import PocketCalc.Number.Format
import PocketCalc.Proofs.Literal

/-!
# How numbers are shown

A finite number is shown as a numeral that could have been typed, without a zero in front of its
other digits. The texts of all other results are read back as numbers that are not finite either.
-/
namespace PocketCalc

/-- Whether a text starts without a zero in front of another digit. -/
def NoLeadingZero (text : List Char) : Prop :=
  ∀ d rest, text = '0' :: d :: rest → d.isDigit = false

theorem noLeadingZero_of_length_le {text : List Char} (h : text.length ≤ 1) :
    NoLeadingZero text := by
  rintro d rest rfl
  simp at h

theorem noLeadingZero_cons {c : Char} (h : c ≠ '0') (rest : List Char) :
    NoLeadingZero (c :: rest) := by
  intro d tail he
  exact absurd (List.cons.inj he).1 h

/-- What follows the first two characters of a text does not matter. -/
theorem NoLeadingZero.append {front : List Char} (h : NoLeadingZero front) (hne : front ≠ [])
    {back : List Char} (hback : front = ['0'] → ∀ c ∈ back.head?, c.isDigit = false) :
    NoLeadingZero (front ++ back) := by
  intro d rest he
  match front, hne with
  | [c], _ =>
    obtain ⟨rfl, hb⟩ := List.cons.inj he
    exact hback rfl d (by simp_all)
  | c :: e :: tail, _ =>
    obtain ⟨rfl, hb⟩ := List.cons.inj he
    obtain ⟨rfl, -⟩ := List.cons.inj hb
    exact h _ _ rfl

theorem NoLeadingZero.of_append {front back : List Char} (h : NoLeadingZero (front ++ back)) :
    NoLeadingZero front := by
  rintro d rest rfl
  exact h d (rest ++ back) rfl

theorem toDigits_eq_cons {n : Nat} (h : 0 < n) :
    ∃ c rest, Nat.toDigits 10 n = c :: rest ∧ c ≠ '0' := by
  induction n using Nat.strong_induction_on with
  | _ n ih =>
    by_cases hn : n < 10
    · have hdigit : ∀ m, m < 10 → 0 < m → m.digitChar ≠ '0' := by decide
      exact ⟨n.digitChar, [], Nat.toDigits_of_lt_base hn, hdigit n hn h⟩
    · obtain ⟨c, rest, hc, hne⟩ := ih (n / 10) (by omega) (by omega)
      refine ⟨c, rest ++ [(n % 10).digitChar], ?_, hne⟩
      rw [Nat.toDigits_of_base_le (by decide) (by omega), hc, List.cons_append]

theorem noLeadingZero_toDigits (n : Nat) : NoLeadingZero (Nat.toDigits 10 n) := by
  obtain rfl | h := Nat.eq_zero_or_pos n
  · exact noLeadingZero_of_length_le (by simp)
  · obtain ⟨c, rest, hc, hne⟩ := toDigits_eq_cons h
    rw [hc]
    exact noLeadingZero_cons hne rest

theorem isDigit_toDigits (n : Nat) : ∀ c ∈ Nat.toDigits 10 n, c.isDigit := fun _ h =>
  Nat.isDigit_of_mem_toDigits (by decide) (by decide) h

theorem isDigit_padded (length n : Nat) : ∀ c ∈ Shortest.padded length n, c.isDigit := by
  intro c h
  obtain h | h := List.mem_append.1 h
  · rw [List.eq_of_mem_replicate h]
    rfl
  · exact isDigit_toDigits n c h

/-- The numeral of a whole number, with digits behind the point if there are any. -/
def Literal.ofNat (negative : Bool) (n : Nat) (fraction : Option (List Char))
    (h : ∀ digits ∈ fraction, ∀ c ∈ digits, c.isDigit) : Literal where
  negative := negative
  whole := Nat.toDigits 10 n
  fraction := fraction
  whole_ne_nil := Nat.toDigits_ne_nil
  whole_digits := isDigit_toDigits n
  fraction_digits := h

theorem Literal.noLeadingZero_ofNat (negative : Bool) (n : Nat) (fraction : Option (List Char))
    (h : ∀ digits ∈ fraction, ∀ c ∈ digits, c.isDigit) :
    NoLeadingZero (Literal.ofNat negative n fraction h).text := by
  cases negative with
  | true => exact noLeadingZero_cons (by decide) _
  | false =>
    refine (noLeadingZero_toDigits n).append Nat.toDigits_ne_nil fun _ c hc => ?_
    cases fraction with
    | none => simp [ofNat, pointed] at hc
    | some digits =>
      have : c = '.' := by simpa [ofNat, pointed, eq_comm] using hc
      subst this
      rfl

/-- A text that could have been typed as the first numeral. -/
structure IsShown (text : List Char) : Prop where
  isLiteral : IsLiteral text
  noLeadingZero : NoLeadingZero text

theorem Literal.isShown_ofNat (negative : Bool) (n : Nat) (fraction : Option (List Char))
    (h : ∀ digits ∈ fraction, ∀ c ∈ digits, c.isDigit) :
    IsShown (Literal.ofNat negative n fraction h).text :=
  ⟨⟨_, rfl⟩, noLeadingZero_ofNat negative n fraction h⟩

theorem isShown_signed_positional (negative : Bool) (n j : Nat) :
    IsShown (signed negative (Shortest.positional n j)) := by
  unfold Shortest.positional
  split
  · have h := Literal.isShown_ofNat negative (n * 10 ^ (j - Shortest.places)) none (by simp)
    simpa [Literal.text, Literal.ofNat, pointed] using h
  · have hdigits := isDigit_padded (Shortest.places - j) (n % 10 ^ (Shortest.places - j))
    exact Literal.isShown_ofNat negative _ (some _) (by simpa using hdigits)

theorem isShown_signed_shortest (negative : Bool) (p : Nat) :
    IsShown (signed negative (Shortest.text p)) := by
  unfold Shortest.text
  split
  · simpa [Literal.text, Literal.ofNat, pointed] using
      Literal.isShown_ofNat negative 0 none (by simp)
  · exact isShown_signed_positional negative _ _

theorem isShown_integer (negative : Bool) (n : Nat) : IsShown (Format.integer negative n) := by
  have h := Literal.isShown_ofNat (negative && n ≠ 0) n none (by simp)
  unfold Format.integer
  cases negative <;> by_cases hn : n = 0 <;>
    simpa [Literal.text, Literal.ofNat, pointed, signed, hn] using h

theorem isShown_decimal (x : Float) : IsShown (Format.decimal x) := by
  have h := isShown_signed_shortest (Binary64.isNegative x) (Binary64.position x)
  unfold Format.decimal
  cases hx : Binary64.isNegative x <;> simpa [hx, signed] using h

/-- The texts of results that are not finite. -/
def sentinels : List (List Char) :=
  [Format.nanText, Format.infinityText, Format.negativeInfinityText]

/-- A number is shown as a numeral, or by one of three words. -/
theorem isShown_or_sentinel (x : Float) :
    IsShown (Format.number x) ∨ Format.number x ∈ sentinels := by
  unfold Format.number
  split
  · simp [sentinels]
  · split
    · cases Binary64.isNegative x <;> simp [sentinels]
    · split
      · exact .inl (isShown_integer _ _)
      · exact .inl (isShown_decimal x)

/-- The words are read, but not as finite numbers. -/
theorem not_isFinite_of_sentinel {text : List Char} (h : text ∈ sentinels) :
    (Numeral.read? text).any Float.isFinite = false := by
  revert text
  decide

/-- What is shown and can be read back as a finite number is a numeral. -/
theorem isShown_of_isFinite {x : Float}
    (h : (Numeral.read? (Format.number x)).any Float.isFinite) : IsShown (Format.number x) := by
  obtain hshown | hsentinel := isShown_or_sentinel x
  · exact hshown
  · simp [not_isFinite_of_sentinel hsentinel] at h

end PocketCalc
