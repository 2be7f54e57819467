import Mathlib.Data.Bool.AllAny
import Mathlib.Data.List.Basic
import Mathlib.Data.List.TakeWhile
import PocketCalc.Number.Numeral

/-!
# Numerals as they are typed

A numeral grows one character at a time: a minus or a digit, more digits, a point, digits again.
Every such text is read as a number, and zeros in front of the other digits do not count.
-/
namespace PocketCalc

def digitCharacters : List Char := ['0', '1', '2', '3', '4', '5', '6', '7', '8', '9']

theorem mem_digitCharacters {c : Char} (h : c.isDigit) : c ∈ digitCharacters := by
  obtain ⟨low, high⟩ := Char.isDigit_iff_toNat.1 h
  have codes : ∀ n, n < 58 → 48 ≤ n → Char.ofNat n ∈ digitCharacters := by decide
  rw [← Char.ofNat_toNat c]
  exact codes c.toNat (Nat.lt_succ_of_le high) low

/-- What holds of the ten digits holds of every digit. -/
theorem forall_isDigit {p : Char → Prop} [DecidablePred p] (h : digitCharacters.all fun c => p c)
    {c : Char} (hc : c.isDigit) : p c := List.all_iff_forall_prop.1 h c (mem_digitCharacters hc)

theorem ne_of_isDigit {c d : Char} (h : c.isDigit) (hd : d.isDigit = false) : c ≠ d := by
  rintro rfl
  simp [h] at hd

/-- A text with or without a minus in front. -/
def signed : Bool → List Char → List Char
  | true, text => '-' :: text
  | false, text => text

/-- A point with the digits behind it, if there is one. -/
def pointed : Option (List Char) → List Char
  | none => []
  | some digits => '.' :: digits

/-- A numeral as it is typed: `-?[0-9]+(\.[0-9]*)?`. The fraction is what stands behind the point,
if there is one. -/
structure Literal where
  negative : Bool
  whole : List Char
  fraction : Option (List Char)
  whole_ne_nil : whole ≠ []
  whole_digits : ∀ c ∈ whole, c.isDigit
  fraction_digits : ∀ digits ∈ fraction, ∀ c ∈ digits, c.isDigit

def Literal.text (n : Literal) : List Char := signed n.negative (n.whole ++ pointed n.fraction)

def IsLiteral (text : List Char) : Prop := ∃ n : Literal, n.text = text

namespace Literal

/-- The numeral of one digit, perhaps behind a minus. -/
def ofDigit (negative : Bool) (d : Char) (h : d.isDigit) : Literal where
  negative := negative
  whole := [d]
  fraction := none
  whole_ne_nil := by simp
  whole_digits := by simpa using h
  fraction_digits := by simp

@[simp] theorem text_ofDigit (negative : Bool) (d : Char) (h : d.isDigit) :
    (ofDigit negative d h).text = signed negative [d] := by simp [text, ofDigit, pointed]

/-- The numeral with one more digit before the point. -/
def pushWhole (n : Literal) (d : Char) (h : d.isDigit) : Literal where
  negative := n.negative
  whole := n.whole ++ [d]
  fraction := none
  whole_ne_nil := by simp
  whole_digits := by simpa [or_imp, forall_and] using ⟨n.whole_digits, h⟩
  fraction_digits := by simp

def withFraction (n : Literal) (digits : List Char) (h : ∀ c ∈ digits, c.isDigit) : Literal where
  negative := n.negative
  whole := n.whole
  fraction := some digits
  whole_ne_nil := n.whole_ne_nil
  whole_digits := n.whole_digits
  fraction_digits := by simpa using h

theorem exists_whole_eq_cons (n : Literal) : ∃ c rest, n.whole = c :: rest ∧ c.isDigit := by
  obtain ⟨c, rest, h⟩ := List.exists_cons_of_ne_nil n.whole_ne_nil
  exact ⟨c, rest, h, n.whole_digits c (by simp [h])⟩

@[simp] theorem point_notMem_whole (n : Literal) : '.' ∉ n.whole := fun h =>
  absurd (n.whole_digits _ h) (by decide)

theorem point_mem_text (n : Literal) : '.' ∈ n.text ↔ n.fraction.isSome := by
  unfold text
  cases n.negative <;> cases n.fraction <;> simp [signed, pointed]

theorem text_eq_cons (n : Literal) :
    ∃ c rest, n.text = c :: rest ∧ (n.negative = true ∧ c = '-' ∧ rest ≠ [] ∨
      n.negative = false ∧ c.isDigit) := by
  obtain ⟨c, rest, h, hc⟩ := n.exists_whole_eq_cons
  cases hn : n.negative with
  | true => exact ⟨'-', c :: rest ++ pointed n.fraction, by simp [text, hn, signed, h], by simp⟩
  | false => exact ⟨c, rest ++ pointed n.fraction, by simp [text, hn, signed, h], by simp [hc]⟩

theorem mem_text {n : Literal} {c : Char} (h : c ∈ n.text) :
    c.isDigit ∨ c = '.' ∨ c = '-' ∧ n.negative = true := by
  have hbody : c ∈ n.whole ++ pointed n.fraction → c.isDigit ∨ c = '.' := by
    intro hc
    obtain hwhole | hfraction := List.mem_append.1 hc
    · exact .inl (n.whole_digits c hwhole)
    · cases hf : n.fraction with
      | none => simp [hf, pointed] at hfraction
      | some digits =>
        obtain rfl | hdigits : c = '.' ∨ c ∈ digits := by simpa [hf, pointed] using hfraction
        · exact .inr rfl
        · exact .inl (n.fraction_digits digits hf c hdigits)
  cases hn : n.negative with
  | true =>
    obtain rfl | hc : c = '-' ∨ c ∈ n.whole ++ pointed n.fraction := by
      simpa [text, hn, signed] using h
    · exact .inr (.inr ⟨rfl, rfl⟩)
    · exact (hbody hc).imp_right .inl
  | false => exact (hbody (by simpa [text, hn, signed] using h)).imp_right .inl

end Literal

theorem isLiteral_digit {d : Char} (h : d.isDigit) : IsLiteral [d] :=
  ⟨.ofDigit false d h, by simp [signed]⟩

theorem isLiteral_minus_digit {d : Char} (h : d.isDigit) : IsLiteral ['-', d] :=
  ⟨.ofDigit true d h, by simp [signed]⟩

theorem IsLiteral.append_digit {text : List Char} {d : Char} (h : IsLiteral text) (hd : d.isDigit) :
    IsLiteral (text ++ [d]) := by
  obtain ⟨n, rfl⟩ := h
  cases hf : n.fraction with
  | none =>
    refine ⟨n.pushWhole d hd, ?_⟩
    cases hn : n.negative <;> simp [Literal.text, Literal.pushWhole, hn, hf, signed, pointed]
  | some digits =>
    have hdigits : ∀ c ∈ digits ++ [d], c.isDigit := by
      simpa [or_imp, forall_and] using ⟨n.fraction_digits digits hf, hd⟩
    refine ⟨n.withFraction (digits ++ [d]) hdigits, ?_⟩
    cases hn : n.negative <;> simp [Literal.text, Literal.withFraction, hn, hf, signed, pointed]

theorem IsLiteral.append_point {text : List Char} (h : IsLiteral text) (hp : '.' ∉ text) :
    IsLiteral (text ++ ['.']) := by
  obtain ⟨n, rfl⟩ := h
  have hf : n.fraction = none := by simpa [Literal.point_mem_text] using hp
  refine ⟨n.withFraction [] (by simp), ?_⟩
  cases hn : n.negative <;> simp [Literal.text, Literal.withFraction, hn, hf, signed, pointed]

/-- What stands in front of the last digit of a numeral without a point. -/
theorem Literal.eq_append_of_fraction_none (n : Literal) (hf : n.fraction = none) :
    ∃ front d, n.text = front ++ [d] ∧ d.isDigit ∧
      (front = [] ∨ front = ['-'] ∨ IsLiteral front) := by
  obtain ⟨whole, d, hw⟩ := (List.eq_nil_or_concat' n.whole).resolve_left n.whole_ne_nil
  have hd : d.isDigit := n.whole_digits d (by simp [hw])
  refine ⟨signed n.negative whole, d, ?_, hd, ?_⟩
  · cases hn : n.negative <;> simp [Literal.text, hn, hf, hw, signed, pointed]
  · by_cases hnil : whole = []
    · subst hnil
      cases n.negative <;> simp [signed]
    · have hdigits : ∀ c ∈ whole, c.isDigit := fun c hc => n.whole_digits c (by simp [hw, hc])
      exact .inr (.inr ⟨⟨n.negative, whole, none, hnil, hdigits, by simp⟩, by simp [text, pointed]⟩)

/-- What stands in front of the last character of a numeral with a point. -/
theorem Literal.eq_append_of_fraction_some (n : Literal) {digits : List Char}
    (hf : n.fraction = some digits) :
    ∃ front c, n.text = front ++ [c] ∧ IsLiteral front ∧ (c.isDigit ∨ c = '.' ∧ '.' ∉ front) := by
  have hall := n.fraction_digits digits hf
  obtain hnil | ⟨ds, d, hds⟩ := List.eq_nil_or_concat' digits
  · let m : Literal := ⟨n.negative, n.whole, none, n.whole_ne_nil, n.whole_digits, by simp⟩
    have hm : '.' ∉ m.text := by simp [m.point_mem_text, m]
    refine ⟨m.text, '.', ?_, ⟨m, rfl⟩, .inr ⟨rfl, hm⟩⟩
    cases hn : n.negative <;> simp [m, text, hn, hf, hnil, signed, pointed]
  · have hd : d.isDigit := hall d (by simp [hds])
    refine ⟨(n.withFraction ds fun c hc => hall c (by simp [hds, hc])).text, d, ?_, ⟨_, rfl⟩,
      .inl hd⟩
    cases hn : n.negative <;> simp [text, withFraction, hn, hf, hds, signed, pointed]

/-- What stands in front of the last character of a numeral: nothing, a minus or a shorter numeral.
A point is never put behind another one. -/
theorem IsLiteral.eq_append {text : List Char} (h : IsLiteral text) :
    ∃ front c, text = front ++ [c] ∧
      (c.isDigit ∧ (front = [] ∨ front = ['-']) ∨
        IsLiteral front ∧ (c.isDigit ∨ c = '.' ∧ '.' ∉ front)) := by
  obtain ⟨n, rfl⟩ := h
  cases hf : n.fraction with
  | none =>
    obtain ⟨front, d, htext, hd, hfront⟩ := n.eq_append_of_fraction_none hf
    refine ⟨front, d, htext, ?_⟩
    obtain hnil | hminus | hlit := hfront
    · exact .inl ⟨hd, .inl hnil⟩
    · exact .inl ⟨hd, .inr hminus⟩
    · exact .inr ⟨hlit, .inl hd⟩
  | some digits =>
    obtain ⟨front, c, htext, hlit, hc⟩ := n.eq_append_of_fraction_some hf
    exact ⟨front, c, htext, .inr ⟨hlit, hc⟩⟩

namespace Literal
open Numeral

theorem splitSign_text (n : Literal) :
    splitSign n.text = (n.negative, n.whole ++ pointed n.fraction) := by
  obtain ⟨c, rest, hw, hc⟩ := n.exists_whole_eq_cons
  cases hn : n.negative with
  | true => simp [text, hn, signed, splitSign]
  | false =>
    have hminus : c ≠ '-' := ne_of_isDigit hc (by decide)
    have hplus : c ≠ '+' := ne_of_isDigit hc (by decide)
    simp only [text, hn, signed, hw, List.cons_append]
    unfold splitSign
    split <;> simp_all

theorem takeWhile_whole (n : Literal) :
    (n.whole ++ pointed n.fraction).takeWhile Char.isDigit = n.whole := by
  rw [List.takeWhile_append_of_pos n.whole_digits]
  cases n.fraction <;> simp [pointed]

theorem dropWhile_whole (n : Literal) :
    (n.whole ++ pointed n.fraction).dropWhile Char.isDigit = pointed n.fraction := by
  rw [List.dropWhile_append_of_pos n.whole_digits]
  cases n.fraction <;> simp [pointed]

theorem splitFraction_pointed (n : Literal) :
    splitFraction (pointed n.fraction) = (n.fraction.getD [], []) := by
  cases hf : n.fraction with
  | none => rfl
  | some digits =>
    have hall := n.fraction_digits digits hf
    simp [pointed, splitFraction, List.takeWhile_eq_self_iff.2 hall,
      List.dropWhile_eq_nil_iff.2 hall]

/-- The value of a numeral: its digits, without the point, times a power of ten. -/
def value (n : Literal) : Float :=
  Binary64.ofPosition n.negative
    (decimalPosition (digitsValue (n.whole ++ n.fraction.getD [])) (-(n.fraction.getD []).length))

theorem decimal?_body (n : Literal) : decimal? (n.whole ++ pointed n.fraction) =
    some (digitsValue (n.whole ++ n.fraction.getD []), -((n.fraction.getD []).length : Int)) := by
  simp [decimal?, n.takeWhile_whole, n.dropWhile_whole, n.splitFraction_pointed, n.whole_ne_nil,
    exponent?]

theorem read?_text (n : Literal) : read? n.text = some n.value := by
  obtain ⟨c, rest, hw, hc⟩ := n.exists_whole_eq_cons
  have hi : c.toLower ≠ 'i' := forall_isDigit (p := fun c => c.toLower ≠ 'i') (by decide) hc
  have hn : c.toLower ≠ 'n' := forall_isDigit (p := fun c => c.toLower ≠ 'n') (by decide) hc
  have hbody : n.whole ++ pointed n.fraction = c :: (rest ++ pointed n.fraction) := by simp [hw]
  rw [read?, n.splitSign_text]
  simp only [n.decimal?_body]
  simp [hbody, hi, hn, value]

end Literal

theorem IsLiteral.exists_read? {text : List Char} (h : IsLiteral text) :
    ∃ value, Numeral.read? text = some value := by
  obtain ⟨n, rfl⟩ := h
  exact ⟨n.value, n.read?_text⟩

end PocketCalc
