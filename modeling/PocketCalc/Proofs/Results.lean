import PocketCalc.Proofs.Keys
import PocketCalc.Proofs.Totals

/-!
# Results

Equals shows the total of a draft. A result that is finite is the first numeral of the next draft,
unless a digit starts a new one; any other result gives way to the empty draft. An expression that
shows a draft or a result is proper, and every key keeps it so.
-/
namespace PocketCalc
namespace Draft

theorem WellFormed.alternating_finished {d : Draft} (h : d.WellFormed) :
    Alternating d.finished := by
  have htoken (hk : d.kind ≠ .empty) (hs : d.kind ≠ .sign) : Alternating (d.tokens ++ [d.token]) :=
    alternating_append_singleton.2 ⟨h.alternating, (h.token_spec hk hs).2.2⟩
  cases hk : d.kind with
  | empty => simpa [finished, hk] using h.alternating
  | sign => simpa [finished, hk] using h.alternating
  | number => simpa [finished, hk] using htoken (by simp [hk]) (by simp [hk])
  | operator op => simpa [finished, hk] using htoken (by simp [hk]) (by simp [hk])

theorem WellFormed.pressEquals_expression {d : Draft} (h : d.WellFormed) {total : Float}
    (htotal : Evaluation.final d.finished = .ok total) :
    d.expression.pressEquals = .ok (Expression.ofResult (Format.number total)) := by
  have hcommit (hk : d.kind ≠ .empty) (hs : d.kind ≠ .sign) :
      ∃ e, d.expression.commit [] false = .ok e ∧ e.tokens = d.tokens ++ [d.token] := by
    refine ⟨_, by rw [Expression.commit, pending_expression, (h.token_spec hk hs).1], ?_⟩
    simp
  have hfinal {e : Expression} (he : e.tokens = d.finished) :
      (do let total ← Evaluation.final e.tokens; pure (Expression.ofResult (Format.number total))) =
        (.ok (Expression.ofResult (Format.number total)) : Except CalcError Expression) := by
    rw [he, htotal]
    rfl
  simp only [Expression.pressEquals, fragmentKind_expression]
  cases hk : d.kind with
  | empty => exact hfinal (by simp [finished, hk])
  | sign => exact hfinal (by simp [finished, hk, Expression.replacePending])
  | number =>
    obtain ⟨e, he, htokens⟩ := hcommit (by simp [hk]) (by simp [hk])
    simp only [he]
    exact hfinal (by simp [finished, hk, htokens])
  | operator op =>
    obtain ⟨e, he, htokens⟩ := hcommit (by simp [hk]) (by simp [hk])
    simp only [he]
    exact hfinal (by simp [finished, hk, htokens])

/-- Where more than nothing or a single zero is shown, equals leads to the total. -/
theorem WellFormed.step_equals {d : Draft} (h : d.WellFormed) (hz : ¬(d.text = [] ∨ d.text = ['0']))
    {total : Float} (htotal : Evaluation.final d.finished = .ok total) :
    d.expression.step .equals = .ok (Expression.ofResult (Format.number total)) := by
  rw [step_expression_eq, if_neg hz]
  exact h.pressEquals_expression htotal

end Draft

namespace Expression

/-- A number as it is shown may be the first numeral of a draft. -/
theorem wellFormed_first_of_isShown {text : List Char} (h : IsShown text) :
    (Draft.first text).WellFormed :=
  Draft.wellFormed_of_fragment (.numeral rfl h.isLiteral) h.noLeadingZero

theorem expression_first_of_isShown {text : List Char} (h : IsShown text) :
    (Draft.first text).expression = ⟨[], text, text, false⟩ := by
  have hshown := shown_of_ne_nil (isLiteral_ne_nil h.isLiteral)
  simp [Draft.expression, Draft.first, Draft.text, hshown]

/-- The letters of the results that are no numerals. -/
def wordLetters : List Char := ['N', 'a', 'I', 'n', 'f', 'i', 't', 'y']

theorem char_of_number {x : Float} {c : Char} (h : c ∈ Format.number x) :
    c.isDigit ∨ c = '.' ∨ (∃ op : Operator, op.symbol? = some c) ∨ c ∈ wordLetters := by
  obtain hshown | hsentinel := isShown_or_sentinel x
  · have hmem : c ∈ (Draft.first (Format.number x)).text := by
      simpa [Draft.first, Draft.text] using h
    have hc := (wellFormed_first_of_isShown hshown).char_cases c hmem
    obtain hdigit | hpoint | hsymbol := hc
    · exact .inl hdigit
    · exact .inr (.inl hpoint)
    · exact .inr (.inr (.inl hsymbol))
  · have hwords : ∀ c ∈ sentinels.flatten, c = '-' ∨ c ∈ wordLetters :=
      List.all_iff_forall_prop.1 (by decide)
    obtain rfl | hletter := hwords c (List.mem_flatten.2 ⟨_, hsentinel, h⟩)
    · exact .inr (.inr (.inl ⟨.minus, rfl⟩))
    · exact .inr (.inr (.inr hletter))

theorem number_ne_nil (x : Float) : Format.number x ≠ [] := by
  obtain hshown | hsentinel := isShown_or_sentinel x
  · exact isLiteral_ne_nil hshown.isLiteral
  · have hwords : ∀ text ∈ sentinels, text ≠ [] := by decide
    exact hwords _ hsentinel

/-- A finite result is carried over to any key but a digit. -/
theorem carriesOver_ofResult {text : List Char} {key : Key} :
    (ofResult text).carriesOver key = true ↔
      key.isDigit = false ∧ (Numeral.read? text).any Float.isFinite = true := by
  simp [carriesOver, ofResult, isFinite, pendingValue?]

/-- A key after a result that is carried over acts on the draft of the result. -/
theorem step_ofResult {text : List Char} {key : Key} (h : (ofResult text).carriesOver key = true)
    (hshown : IsShown text) :
    (ofResult text).step key = (Draft.first text).expression.press key := by
  have hprepare : (ofResult text).prepare key = ⟨[], text, text, false⟩ := by
    have hevaluated : (ofResult text).evaluated = true := rfl
    rw [prepare, if_pos hevaluated, if_pos h]
    rfl
  rw [expression_first_of_isShown hshown]
  simp [step, hprepare, h]

/-- A key after any other result acts on the empty draft. -/
theorem step_ofResult_of_dropped {text : List Char} {key : Key}
    (h : (ofResult text).carriesOver key = false) :
    (ofResult text).step key = Draft.blank.expression.step key := by
  have hprepare : (ofResult text).prepare key = blank := by
    have hevaluated : (ofResult text).evaluated = true := rfl
    rw [prepare, if_pos hevaluated, if_neg (by simp [h])]
  have hblank : blank.step key = .ok (blank.begin key) := by
    simp [step, prepare, carriesOver, blank]
  rw [Draft.expression_blank, hblank, step, hprepare]
  simp [h, blank]

/-- The expressions that keys lead to: those that show a draft and those that show a number. -/
inductive Proper : Expression → Prop
  | draft {d : Draft} : d.WellFormed → Proper d.expression
  | result (x : Float) : Proper (ofResult (Format.number x))

theorem proper_pressEquals {d : Draft} (h : d.WellFormed) :
    ∃ e, d.expression.pressEquals = .ok e ∧ e.Proper := by
  obtain ⟨total, htotal⟩ := Evaluation.exists_final h.alternating_finished
  exact ⟨_, h.pressEquals_expression htotal, .result total⟩

theorem proper_step {d : Draft} (h : d.WellFormed) {key : Key} (hkey : key.Legal) :
    ∃ e, d.expression.step key = .ok e ∧ e.Proper := by
  by_cases he : key = .equals → d.text = [] ∨ d.text = ['0']
  · exact ⟨_, h.step_expression hkey he, .draft (h.step hkey)⟩
  · obtain ⟨rfl, hne⟩ := Classical.not_imp.1 he
    rw [Draft.step_expression_eq, if_neg hne]
    exact proper_pressEquals h

/-- No key on a proper expression fails, and all of them lead to a proper expression. -/
theorem Proper.step {e : Expression} (h : e.Proper) {key : Key} (hkey : key.Legal) :
    ∃ e', e.step key = .ok e' ∧ e'.Proper := by
  cases h with
  | draft hd => exact proper_step hd hkey
  | result x =>
    cases hcarries : (ofResult (Format.number x)).carriesOver key with
    | false =>
      rw [step_ofResult_of_dropped hcarries]
      exact proper_step Draft.wellFormed_blank hkey
    | true =>
      obtain ⟨hdigit, hfinite⟩ := carriesOver_ofResult.1 hcarries
      have hshown := isShown_of_isFinite hfinite
      have hd := wellFormed_first_of_isShown hshown
      rw [step_ofResult hcarries hshown]
      by_cases he : key = .equals
      · subst he
        exact proper_pressEquals hd
      · have hk : (Draft.first (Format.number x)).kind ≠ .empty := by
          simp [Draft.kind, Draft.first, kindOf_of_isLiteral [] hshown.isLiteral]
        exact ⟨_, hd.press_expression hk hkey he, .draft (hd.press hkey fun _ => hdigit)⟩

theorem undo_evaluated (e : Expression) (evaluated : Bool) :
    { ({ e with evaluated } : Expression).undo with evaluated := false } =
      { e.undo with evaluated := false } := by
  simp only [undo]
  by_cases hz : e.display = emptyDisplay
  · simp [hz]
  · simp only [hz, if_false]
    cases Text.splitLastCluster? e.display with
    | none => rfl
    | some cut =>
      obtain ⟨front, last⟩ := cut
      cases front with
      | nil => rfl
      | cons c rest =>
        dsimp only
        split <;> rfl

/-- Undo on the expression of a draft leads to a draft: the one before, or the same one if it shows
a single zero. -/
theorem exists_undo {d : Draft} (h : d.WellFormed) :
    ∃ before : Draft, before.WellFormed ∧ d.expression.undo = before.expression := by
  by_cases hz : d.expression.display = emptyDisplay
  · exact ⟨d, h, by rw [undo, if_pos hz]⟩
  · exact ⟨d.undo, h.undo, h.undo_expression hz⟩

end Expression
end PocketCalc
