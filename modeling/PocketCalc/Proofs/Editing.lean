import PocketCalc.Proofs.Growth
import PocketCalc.Session

/-!
# Editing through the display

An expression keeps its display beside the tokens and the fragment, and edits it in place. On the
expression of a well-formed draft each of these edits does what the same edit of the draft does: the
display is the text of the draft again. The fragment of a well-formed draft is classified as what it
is.
-/
namespace PocketCalc
open Text

@[simp] theorem shown_nil : shown [] = emptyDisplay := rfl

theorem shown_of_ne_nil {text : List Char} (h : text ≠ []) : shown text = text := by simp [shown, h]

/-- Nothing and a single zero are shown alike. -/
theorem shown_eq_emptyDisplay_iff {text : List Char} :
    shown text = emptyDisplay ↔ text = [] ∨ text = ['0'] := by
  by_cases ht : text = []
  · simp [ht]
  · simp [shown_of_ne_nil ht, ht, emptyDisplay]

@[simp] theorem dropSuffix?_self (text : List Char) : dropSuffix? text text = some [] := by
  simpa using dropSuffix?_append [] text

namespace Expression

theorem tokenOf_of_isLiteral {text : List Char} {value : Float} (h : IsLiteral text)
    (hread : Numeral.read? text = some value) : tokenOf text = .ok (.number value text) := by
  have hne := isLiteral_ne_nil h
  unfold tokenOf
  split <;> simp_all

theorem tokenOf_of_symbol? {op : Operator} {c : Char} (h : op.symbol? = some c) :
    tokenOf [c] = .ok (.operator op) := by
  refine Operator.symbol_cases ?_ ?_ ?_ ?_ ?_ h <;> rfl

theorem ofSymbol?_of_isDigit {c : Char} (h : c.isDigit) : Operator.ofSymbol? c = none :=
  forall_isDigit (p := fun c => Operator.ofSymbol? c = none) (by decide) h

theorem kindOf_of_isLiteral (tokens : List Token) {text : List Char} (h : IsLiteral text) :
    kindOf tokens text = .number := by
  unfold kindOf
  split
  · exact absurd rfl (isLiteral_ne_nil h)
  · exact absurd (isLiteral_singleton h) (by decide)
  · simp [ofSymbol?_of_isDigit (isLiteral_singleton h)]
  · rfl

theorem kindOf_minus {tokens : List Token} (h : Alternating tokens)
    (heven : tokens.length % 2 = 0) : kindOf tokens ['-'] = .sign := by
  by_cases hnil : tokens = []
  · simp [kindOf, hnil]
  · obtain ⟨front, op, c, rfl, -⟩ := h.exists_operator heven hnil
    simp [kindOf, Token.isNumber]

theorem kindOf_of_symbol? {tokens : List Token} (h : Alternating tokens)
    (hodd : tokens.length % 2 = 1) {op : Operator} {c : Char} (hc : op.symbol? = some c) :
    kindOf tokens [c] = .operator op := by
  obtain ⟨front, value, literal, rfl, -⟩ := h.exists_number hodd
  refine Operator.symbol_cases ?_ ?_ ?_ ?_ ?_ hc <;>
    simp [kindOf, Token.isNumber, Operator.ofSymbol?, Operator.symbol?]

end Expression

namespace Draft

def kind (d : Draft) : FragmentKind := Expression.kindOf d.tokens d.pending

@[simp] theorem fragmentKind_expression (d : Draft) : d.expression.fragmentKind = d.kind := rfl

@[simp] theorem tokens_expression (d : Draft) : d.expression.tokens = d.tokens := rfl

@[simp] theorem pending_expression (d : Draft) : d.expression.pending = d.pending := rfl

@[simp] theorem display_expression (d : Draft) : d.expression.display = shown d.text := rfl

@[simp] theorem evaluated_expression (d : Draft) : d.expression.evaluated = false := rfl

@[simp] theorem expression_blank : blank.expression = Expression.blank := rfl

theorem expression_extend (d : Draft) (text : List Char) : (d.extend text).expression =
    ⟨d.tokens, d.pending ++ text, shown (d.text ++ text), false⟩ := by simp [expression]

theorem expression_push {d : Draft} {t : Token} (ht : t.text = d.pending) (next : List Char) :
    (d.push t next).expression = ⟨d.tokens ++ [t], next, shown (d.text ++ next), false⟩ := by
  simp [expression, text_push d ht]

namespace WellFormed
variable {d : Draft} (h : d.WellFormed)
include h

theorem pending_ne_nil (hne : d ≠ blank) : d.pending ≠ [] := fun hp =>
  hne (h.eq_blank_of_pending_eq_nil hp)

theorem display_of_ne_blank (hne : d ≠ blank) : d.expression.display = d.text :=
  shown_of_ne_nil fun ht => hne (h.text_eq_nil_iff.1 ht)

theorem isBlank_expression (hne : d ≠ blank) : d.expression.isBlank = false := by
  simp [Expression.isBlank, h.pending_ne_nil hne]

theorem append_expression {text : List Char} (hne : text ≠ []) :
    d.expression.append text = (d.extend text).expression := by
  have hshown : shown (d.text ++ text) = d.text ++ text := shown_of_ne_nil (by simp [hne])
  rw [expression_extend, hshown]
  by_cases hb : d = blank
  · subst hb
    simp [Expression.append, Expression.isBlank, Draft.blank, Draft.text]
  · rw [Expression.append, h.isBlank_expression hb, h.display_of_ne_blank hb]
    simp [expression]

theorem committedDisplay_expression (hne : d ≠ blank) :
    d.expression.committedDisplay = tokensText d.tokens := by
  have hlen : byteLength d.text - byteLength d.pending = byteLength (tokensText d.tokens) := by
    simp [Draft.text]
  simp only [Expression.committedDisplay, h.display_of_ne_blank hne, pending_expression, hlen]
  simp [Draft.text]

theorem replacePending_expression (hne : d ≠ blank) (text : List Char) :
    d.expression.replacePending text = (d.replace text).expression := by
  simp only [Expression.replacePending, h.committedDisplay_expression hne]
  simp [expression, Draft.replace, Draft.text]

theorem commit_expression {t : Token} (ht : Expression.tokenOf d.pending = .ok t)
    (htext : t.text = d.pending) (hne : d ≠ blank) {next : List Char} (hnext : next ≠ []) :
    d.expression.commit next false = .ok (d.push t next).expression := by
  have hshown : shown (d.text ++ next) = d.text ++ next := shown_of_ne_nil (by simp [hnext])
  have hdisplay := h.display_of_ne_blank hne
  rw [expression_push htext, hshown, ← hdisplay]
  simp [Expression.commit, ht]

/-- Backspace on the display is undo on the draft. A single zero stays. -/
theorem undo_expression (hz : d.expression.display ≠ emptyDisplay) :
    d.expression.undo = d.undo.expression := by
  have hne : d ≠ blank := by
    rintro rfl
    exact hz rfl
  obtain ⟨before, c, hbefore, hgrows⟩ := h.exists_grows hne
  have hplain := h.isPlain_text
  rw [hgrows.text_eq] at hplain
  rw [hgrows.undo_eq, Expression.undo, if_neg hz, h.display_of_ne_blank hne, hgrows.text_eq,
    splitLastCluster?_append hplain]
  by_cases hb : before = blank
  · subst hb
    rfl
  · have htext : before.text ≠ [] := fun ht => hb (hbefore.text_eq_nil_iff.1 ht)
    have hshown := shown_of_ne_nil htext
    obtain ⟨first, rest, hcons⟩ := List.exists_cons_of_ne_nil htext
    have hpending := hbefore.pending_ne_nil hb
    have hbefore : before.expression = ⟨before.tokens, before.pending, first :: rest, false⟩ := by
      rw [expression, hshown, hcons]
    rw [hbefore, hcons]
    cases hgrows with
    | first _ => exact absurd rfl hb
    | digit _ _ => simp [hpending]
    | point _ _ => simp [hpending]
    | operand hs _ => simp [Token.text, Operator.text, hs]
    | operator _ _ _ => simp [Token.text]

end WellFormed
end Draft
end PocketCalc
