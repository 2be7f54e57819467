import PocketCalc.Proofs.Grammar
import PocketCalc.Proofs.Sentinels
import PocketCalc.Text.Columns

/-!
# The width of what a calculator shows

The width of most characters has nothing to do with what stands beside them. The width of a text of
such characters is the sum of their widths. Everything a calculator shows is made of digits, a
point, symbols of operators and a few letters, and each of them takes one column by itself.
-/
namespace PocketCalc.Text

/-- Whether a character always takes the same columns, with nothing of its own behind
the one in front. -/
def hasOwnWidth (rules : WidthRules) (c : Char) : Bool :=
  addedColumns rules c Behind.nothing.plain = ((columns rules [c] : Int), Behind.nothing.plain)

theorem measure_cons (rules : WidthRules) (c : Char) (rest : List Char) :
    measure rules (c :: rest) =
      ((measure rules rest).1 + (addedColumns rules c (measure rules rest).2).1,
        (addedColumns rules c (measure rules rest).2).2) := rfl

theorem measure_of_hasOwnWidth {rules : WidthRules} {text : List Char}
    (h : ∀ c ∈ text, hasOwnWidth rules c) :
    measure rules text =
      (Nat.cast (text.map fun c => columns rules [c]).sum, Behind.nothing.plain) := by
  induction text with
  | nil => rfl
  | cons c rest ih =>
    have hrest := ih fun d hd => h d (List.mem_cons_of_mem c hd)
    have hc : addedColumns rules c Behind.nothing.plain =
        ((columns rules [c] : Int), Behind.nothing.plain) := by
      simpa [hasOwnWidth] using h c List.mem_cons_self
    rw [measure_cons, hrest, hc, List.map_cons, List.sum_cons, Nat.cast_add, Int.add_comm]

/-- The width of a text is the sum of the widths of its characters. -/
theorem columns_of_hasOwnWidth {rules : WidthRules} {text : List Char}
    (h : ∀ c ∈ text, hasOwnWidth rules c) :
    columns rules text = (text.map fun c => columns rules [c]).sum := by
  rw [columns, measure_of_hasOwnWidth h, Int.toNat_natCast]

theorem columns_append_of_hasOwnWidth {rules : WidthRules} {front back : List Char}
    (h : ∀ c ∈ front ++ back, hasOwnWidth rules c) :
    columns rules (front ++ back) = columns rules front + columns rules back := by
  have hfront : ∀ c ∈ front, hasOwnWidth rules c := fun c hc => h c (List.mem_append_left back hc)
  have hback : ∀ c ∈ back, hasOwnWidth rules c := fun c hc => h c (List.mem_append_right front hc)
  rw [columns_of_hasOwnWidth h, columns_of_hasOwnWidth hfront, columns_of_hasOwnWidth hback,
    List.map_append, List.sum_append]

theorem columns_eq_length {rules : WidthRules} {text : List Char}
    (h : ∀ c ∈ text, hasOwnWidth rules c ∧ columns rules [c] = 1) :
    columns rules text = text.length := by
  have hones : (text.map fun c => columns rules [c]) = text.map fun _ => 1 :=
    List.map_congr_left fun c hc => (h c hc).2
  rw [columns_of_hasOwnWidth fun c hc => (h c hc).1, hones]
  simp

end PocketCalc.Text

namespace PocketCalc
open Text

def shownCharacters : List Char :=
  digitCharacters ++ ['.'] ++ operatorSymbols ++ Expression.wordLetters

theorem mem_shownCharacters {c : Char} (h : c.isDigit ∨ c = '.' ∨
    (∃ op : Operator, op.symbol? = some c) ∨ c ∈ Expression.wordLetters) : c ∈ shownCharacters := by
  simp only [shownCharacters, List.mem_append, List.mem_singleton]
  obtain hdigit | rfl | ⟨op, hop⟩ | hletter := h
  · exact .inl (.inl (.inl (mem_digitCharacters hdigit)))
  · exact .inl (.inl (.inr rfl))
  · exact .inl (.inr (mem_operatorSymbols hop))
  · exact .inr hletter

/-- Whatever a session is told, it shows these characters only. -/
theorem Session.Proper.mem_shownCharacters {s : Session} (h : s.Proper) :
    ∀ c ∈ s.mainText, c ∈ shownCharacters := by
  intro c hc
  obtain ⟨d, hd, rfl⟩ | ⟨x, rfl⟩ := h.cases
  · have htyped := isTyped_iff.1 (hd.isTyped_display c hc)
    exact PocketCalc.mem_shownCharacters (htyped.imp_right (Or.imp_right .inl))
  · exact PocketCalc.mem_shownCharacters (Expression.char_of_number hc)

theorem isPlain_of_mem_shownCharacters {c : Char} (h : c ∈ shownCharacters) : isPlain c := by
  have hall : ∀ c ∈ shownCharacters, isPlain c := List.all_iff_forall_prop.1 (by decide)
  exact hall c h

theorem hasOwnWidth_of_mem_shownCharacters {c : Char} (h : c ∈ shownCharacters) :
    hasOwnWidth .edition15 c ∧ columns .edition15 [c] = 1 := by
  have hall : ∀ c ∈ shownCharacters, hasOwnWidth .edition15 c ∧ columns .edition15 [c] = 1 :=
    List.all_iff_forall_prop.1 (by decide)
  exact hall c h

end PocketCalc
