import PocketCalc.Proofs.Draft
import PocketCalc.Proofs.PlainText

/-!
# Growth of a draft

Every well-formed draft but the empty one arises from another one by one character at its end: one
more digit, a point, the first character of an operand or an operator. Undo takes this character
back, and so does undo on the expression, which looks for the last cluster of the display only.
-/
namespace PocketCalc
namespace Draft

/-- One draft arises from another by a character at its end. -/
inductive Grows : Draft → Char → Draft → Prop
  | first {c : Char} : c.isDigit ∨ c = '-' → Grows blank c ⟨[], [c]⟩
  | digit {tokens : List Token} {front : List Char} {c : Char} :
      IsLiteral front ∨ front = ['-'] → c.isDigit → Grows ⟨tokens, front⟩ c ⟨tokens, front ++ [c]⟩
  | point {tokens : List Token} {front : List Char} :
      IsLiteral front → '.' ∉ front → Grows ⟨tokens, front⟩ '.' ⟨tokens, front ++ ['.']⟩
  | operand {tokens : List Token} {op : Operator} {symbol c : Char} :
      op.symbol? = some symbol → c.isDigit ∨ c = '-' ∧ op ≠ .plus →
      Grows ⟨tokens, [symbol]⟩ c ⟨tokens ++ [.operator op], [c]⟩
  | operator {tokens : List Token} {value : Float} {literal : List Char} {op : Operator}
      {c : Char} :
      IsLiteral literal → Numeral.read? literal = some value → op.symbol? = some c →
      Grows ⟨tokens, literal⟩ c ⟨tokens ++ [.number value literal], [c]⟩

namespace Grows
variable {before after : Draft} {c : Char} (h : Grows before c after)
include h

theorem text_eq : after.text = before.text ++ [c] := by
  cases h with
  | first _ => simp [text, blank]
  | digit _ _ => simp [text]
  | point _ _ => simp [text]
  | operand hs _ => simp [text, Token.text, Operator.text, hs]
  | operator _ _ _ => simp [text, Token.text]

theorem undo_eq : after.undo = before := by
  cases h with
  | first _ => rfl
  | digit hfront _ =>
    have hne : ∀ front, IsLiteral front ∨ front = ['-'] → front ≠ [] := by
      rintro front (hlit | rfl)
      · exact isLiteral_ne_nil hlit
      · simp
    have := hne _ hfront
    simp only [undo, List.dropLast_concat]
    split <;> simp_all
  | point hlit _ =>
    have := isLiteral_ne_nil hlit
    simp only [undo, List.dropLast_concat]
    split <;> simp_all
  | operand hs _ => simp [undo, Token.text, Operator.text, hs]
  | operator _ _ _ => simp [undo, Token.text]

/-- A draft grows by digits, points and symbols only. -/
theorem char_cases : c.isDigit ∨ c = '.' ∨ ∃ op : Operator, op.symbol? = some c := by
  have hoperand : ∀ d : Char, d.isDigit ∨ d = '-' →
      d.isDigit ∨ d = '.' ∨ ∃ op : Operator, op.symbol? = some d := by
    rintro d (hd | rfl)
    · exact .inl hd
    · exact .inr (.inr ⟨.minus, rfl⟩)
  cases h with
  | first hc => exact hoperand c hc
  | digit _ hc => exact .inl hc
  | point _ _ => exact .inr (.inl rfl)
  | operand _ hc => exact hoperand c (hc.imp_right And.left)
  | operator _ _ hc => exact .inr (.inr ⟨_, hc⟩)

end Grows

/-- The first character of a numeral or a sign has grown on what stands in front. -/
theorem WellFormed.grows_operand {tokens : List Token} {c : Char}
    (h : WellFormed ⟨tokens, [c]⟩) (heven : tokens.length % 2 = 0) (hc : c.isDigit ∨ c = '-') :
    ∃ before, before.WellFormed ∧ Grows before c ⟨tokens, [c]⟩ := by
  by_cases hnil : tokens = []
  · subst hnil
    exact ⟨blank, wellFormed_blank, .first hc⟩
  · obtain ⟨front, op, s, rfl, hs⟩ := h.alternating.exists_operator heven hnil
    have hsigned : c = '-' → op ≠ .plus := by
      rintro rfl rfl
      have hm := h.mayFollow_getLast (t := .operator .plus) (by simp)
      exact hm (by simp [Token.text, Operator.text, Operator.symbol?]) rfl
    refine ⟨⟨front, [s]⟩, ?_, .operand hs (hc.imp_right fun hm => ⟨hm, hsigned hm⟩)⟩
    simpa [Token.text, Operator.text, hs] using h.pop

/-- Every draft but the empty one has grown. -/
theorem WellFormed.exists_grows {d : Draft} (h : d.WellFormed) (hne : d ≠ blank) :
    ∃ before c, before.WellFormed ∧ Grows before c d := by
  obtain ⟨tokens, pending⟩ := d
  cases h.fragment with
  | blank _ => exact absurd (h.eq_blank_of_pending_eq_nil rfl) hne
  | numeral heven hlit =>
    obtain ⟨front, c, rfl, ⟨hc, rfl | rfl⟩ | ⟨hfront, hc⟩⟩ := hlit.eq_append
    · obtain ⟨before, hbefore, hgrows⟩ := h.grows_operand heven (.inl hc)
      exact ⟨before, c, hbefore, hgrows⟩
    · exact ⟨_, c, h.shorten (by simp) (.sign heven), .digit (.inr rfl) hc⟩
    · have hbefore := h.shorten (isLiteral_ne_nil hfront) (.numeral heven hfront)
      obtain hc | ⟨rfl, hp⟩ := hc
      · exact ⟨_, c, hbefore, .digit (.inl hfront) hc⟩
      · exact ⟨_, '.', hbefore, .point hfront hp⟩
  | sign heven =>
    obtain ⟨before, hbefore, hgrows⟩ := h.grows_operand heven (.inr rfl)
    exact ⟨before, '-', hbefore, hgrows⟩
  | operator hodd hc =>
    obtain ⟨front, value, literal, rfl, hlit, hread⟩ := h.alternating.exists_number hodd
    exact ⟨_, _, h.pop, .operator hlit hread hc⟩

/-- What holds of the empty draft and is kept by growth holds of every draft. -/
theorem WellFormed.growth_induction {motive : (d : Draft) → d.WellFormed → Prop}
    (empty : motive blank wellFormed_blank)
    (grows : ∀ {before c after} (hbefore : before.WellFormed) (h : after.WellFormed),
      Grows before c after → motive before hbefore → motive after h)
    {d : Draft} (h : d.WellFormed) : motive d h := by
  generalize hn : d.text.length = n
  induction n generalizing d with
  | zero =>
    obtain rfl := h.text_eq_nil_iff.1 (List.eq_nil_of_length_eq_zero hn)
    exact empty
  | succ n ih =>
    have hne : d ≠ blank := by
      rintro rfl
      simp [text, blank] at hn
    obtain ⟨before, c, hbefore, hgrows⟩ := h.exists_grows hne
    have hlen : before.text.length = n := by simpa [hgrows.text_eq] using hn
    exact grows hbefore h hgrows (ih hbefore hlen)

theorem WellFormed.char_cases {d : Draft} (h : d.WellFormed) :
    ∀ c ∈ d.text, c.isDigit ∨ c = '.' ∨ ∃ op : Operator, op.symbol? = some c := by
  induction h using WellFormed.growth_induction with
  | empty => simp [text, blank]
  | grows _ _ hgrows ih =>
    rw [hgrows.text_eq]
    simpa [or_imp, forall_and] using ⟨ih, hgrows.char_cases⟩

theorem WellFormed.isPlain_text {d : Draft} (h : d.WellFormed) : ∀ c ∈ d.text, Text.isPlain c := by
  intro c hc
  exact Text.isPlain_of_isTyped (isTyped_iff.2 (h.char_cases c hc))

theorem WellFormed.undo {d : Draft} (h : d.WellFormed) : d.undo.WellFormed := by
  by_cases hne : d = blank
  · subst hne
    exact wellFormed_blank
  · obtain ⟨before, c, hbefore, hgrows⟩ := h.exists_grows hne
    rwa [hgrows.undo_eq]

end Draft
end PocketCalc
