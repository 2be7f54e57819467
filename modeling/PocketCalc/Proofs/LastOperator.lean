import PocketCalc.Proofs.Backspace

/-!
# The last operator

A key of an operator other than minus takes the place of an operator that has just been typed, and
where it cannot follow it is ignored. So of several such keys only the last one counts, whatever is
shown when they are typed. A minus may be a sign: it only counts as an operator behind a number and
behind a plus.
-/
namespace PocketCalc

/-- The keys of the operators other than minus. -/
def IsReplacing (c : Char) : Prop := c ≠ '-' ∧ (Operator.ofSymbol? c).isSome

theorem Operator.eq_of_ofSymbol?_minus {c : Char} (h : ofSymbol? c = some minus) : c = '-' := by
  unfold ofSymbol? at h
  split at h <;> first | rfl | cases h

theorem IsReplacing.exists_operator {c : Char} (h : IsReplacing c) :
    ∃ op, Operator.ofSymbol? c = some op ∧ op ≠ .minus := by
  obtain ⟨op, hop⟩ := Option.isSome_iff_exists.1 h.2
  refine ⟨op, hop, ?_⟩
  rintro rfl
  exact h.1 (Operator.eq_of_ofSymbol?_minus hop)

namespace Draft

/-- Whether the key of an operator makes it the fragment: any does behind a number, and any but
minus takes the place of an operator. -/
inductive Takes (d : Draft) : Operator → Prop
  | number {op : Operator} : d.kind = .number → Takes d op
  | operator {op old : Operator} : d.kind = .operator old → op ≠ .minus → Takes d op

/-- An operator that is no sign takes the place of another one. -/
theorem pressOperator_eq_replace (d : Draft) {old new : Operator} (h : new ≠ .minus ∨ old = .plus) :
    d.pressOperator old (.operator new) = d.replace new.text := by
  cases new with
  | minus =>
    obtain hminus | rfl := h
    · exact absurd rfl hminus
    · rfl
  | plus | times | divide | percent | placeholder => rfl

namespace WellFormed
variable {d : Draft} (h : d.WellFormed)
include h

theorem kind_press {op : Operator} {c : Char} (hs : op.symbol? = some c) (htakes : d.Takes op) :
    (d.press (.operator op)).kind = .operator op := by
  have hlegal : (Key.operator op).Legal := .operator hs
  have halternating := (h.press hlegal fun _ => rfl).alternating
  have htext := Operator.text_of_symbol? hs
  cases htakes with
  | number hk =>
    have hpress : d.press (.operator op) = d.push d.token [c] := by
      simp only [Draft.press, hk, pressNumber, htext]
    have heven := (h.number_of_kind hk).1
    rw [hpress] at halternating ⊢
    exact Expression.kindOf_of_symbol? halternating (by simp; omega) hs
  | operator hk hm =>
    have hpress : d.press (.operator op) = d.replace [c] := by
      simp only [Draft.press, hk, pressOperator_eq_replace d (.inl hm), htext]
    have hodd := (h.operator_of_kind hk).1
    rw [hpress] at halternating ⊢
    exact Expression.kindOf_of_symbol? halternating hodd hs

/-- Of two operators the second one counts, if it is not taken for a sign. -/
theorem press_press {first second : Operator} {c : Char} (hs : first.symbol? = some c)
    (hfirst : d.Takes first) (hsecond : d.Takes second)
    (hreplaces : second ≠ .minus ∨ first = .plus) :
    (d.press (.operator first)).press (.operator second) = d.press (.operator second) := by
  have hreplace : (d.press (.operator first)).press (.operator second) =
      (d.press (.operator first)).replace second.text := by
    rw [Draft.press, h.kind_press hs hfirst]
    exact pressOperator_eq_replace _ hreplaces
  rw [hreplace]
  cases hfirst with
  | number hk =>
    -- the number has become a token once
    simp only [Draft.press, hk]
    rfl
  | operator hk hm =>
    have hm' : second ≠ .minus := by
      cases hsecond with
      | number hnumber => cases hk.symm.trans hnumber
      | operator _ hm' => exact hm'
    simp only [Draft.press, hk, pressOperator_eq_replace d (.inl hm),
      pressOperator_eq_replace d (.inl hm')]
    rfl

end WellFormed
end Draft

namespace Session

/-- Where several operators do what the last one does: of those other than minus any number,
and behind a numeral also one that takes the place of a minus and a minus that takes the
place of a plus. -/
structure LastOperatorWins (s : Session) : Prop where
  last : ∀ front c, (∀ k ∈ front ++ [c], IsReplacing k) → s.typeAll (front ++ [c]) = s.type c
  afterMinus : IsLiteral s.expression.pending →
    ¬(s.expression.evaluated = false ∧ s.mainText = emptyDisplay) →
      ∀ c, IsReplacing c → s.typeAll ['-', c] = s.type c
  afterPlus : IsLiteral s.expression.pending →
    ¬(s.expression.evaluated = false ∧ s.mainText = emptyDisplay) →
      s.typeAll ['+', '-'] = s.type '-'

namespace Shows
variable {s : Session} {d : Draft} (h : s.Shows d)
include h

/-- Only numerals are results. -/
theorem evaluated_eq_false (hk : d.kind ≠ .number) : s.expression.evaluated = false := by
  cases h with
  | draft _ => rfl
  | result hfinite =>
    exact absurd (Draft.kind_of_isLiteral (isShown_of_isFinite hfinite).isLiteral) hk

/-- On a zero that is no result an operator other than minus is ignored. -/
theorem type_of_showsZero (hz : s.expression.evaluated = false ∧ s.mainText = emptyDisplay)
    {c : Char} {op : Operator} (hop : Operator.ofSymbol? c = some op) (hm : op ≠ .minus) :
    s.type c = s := by
  have hzero := h.showsZero hz.2
  have hopening : Expression.openingText? (.operator op) = none := by
    cases op with
    | minus => exact absurd rfl hm
    | plus | times | divide | percent | placeholder => rfl
  have hstep : d.step (.operator op) = d := by
    simp only [Draft.step, if_pos hzero.text_eq, hopening]
  have htype : s.type c = ofExpression d.expression := by
    rw [h.eq_of_evaluated hz.1, type,
      ingest_of_showsZero hzero (Key.ofChar_of_ofSymbol? hop), hstep]
  rw [htype, h.eq_of_evaluated hz.1]

section
variable (hz : ¬(s.expression.evaluated = false ∧ s.mainText = emptyDisplay))
include hz

theorem type_operator {c : Char} {op : Operator} (hop : Operator.ofSymbol? c = some op) :
    s.type c = ofExpression (d.press (.operator op)).expression :=
  h.type_eq_press (Key.ofChar_of_ofSymbol? hop) (by simp) (fun _ => rfl)
    fun hevaluated hmain => hz ⟨hevaluated, hmain⟩

theorem type_type {c c' : Char} {first second : Operator} (hc : Operator.ofSymbol? c = some first)
    (hc' : Operator.ofSymbol? c' = some second) (hfirst : d.Takes first) (hsecond : d.Takes second)
    (hreplaces : second ≠ .minus ∨ first = .plus) : (s.type c).type c' = s.type c' := by
  obtain ⟨symbol, hs⟩ := Operator.exists_symbol?_of_ofSymbol? hc
  have hkind := h.wellFormed.kind_press hs hfirst
  have hpress := h.wellFormed.press (.operator hs) fun _ => rfl
  -- an operator is no zero, so the second key acts on the draft as well
  have hnonzero :
      (ofExpression (d.press (.operator first)).expression).mainText ≠ emptyDisplay := by
    intro hzero
    obtain hnil | hzero := shown_eq_emptyDisplay_iff.1 hzero
    · exact hpress.ne_blank_of_kind (by simp [hkind]) (hpress.text_eq_nil_iff.1 hnil)
    · exact hpress.text_ne_zero (by simp [hkind]) hzero
  rw [h.type_operator hz hc, h.type_operator hz hc',
    (Shows.draft hpress).type_operator (fun hzero => hnonzero hzero.2) hc',
    h.wellFormed.press_press hs hfirst hsecond hreplaces]

/-- Of two operators other than minus the second one counts. -/
theorem type_type_of_ne_minus {c c' : Char} {first second : Operator}
    (hc : Operator.ofSymbol? c = some first) (hc' : Operator.ofSymbol? c' = some second)
    (hfirst : first ≠ .minus) (hsecond : second ≠ .minus) : (s.type c).type c' = s.type c' := by
  cases hk : d.kind with
  | empty =>
    have hevaluated := h.evaluated_eq_false (by simp [hk])
    have hmain := h.mainText_eq
    rw [h.wellFormed.eq_blank_of_kind hk] at hmain
    exact absurd ⟨hevaluated, hmain⟩ hz
  | sign =>
    -- an operator behind a sign is ignored
    have hsame : s.type c = s := by
      rw [h.type_operator hz hc, h.eq_of_evaluated (h.evaluated_eq_false (by simp [hk]))]
      simp only [Draft.press, hk, Draft.pressSign]
    rw [hsame]
  | number => exact h.type_type hz hc hc' (.number hk) (.number hk) (.inl hsecond)
  | operator old =>
    exact h.type_type hz hc hc' (.operator hk hfirst) (.operator hk hsecond) (.inl hsecond)

end
end Shows

namespace Proper
variable {s : Session} (h : s.Proper)
include h

/-- A numeral is no word, so a session with one shows a draft. -/
theorem exists_shows_number (hlit : IsLiteral s.expression.pending) :
    ∃ d, s.Shows d ∧ d.kind = .number := by
  obtain ⟨d, hd⟩ | ⟨x, rfl, hsentinel⟩ := h.shows_or_sentinel
  · rw [hd.pending_eq] at hlit
    exact ⟨d, hd, Expression.kindOf_of_isLiteral d.tokens hlit⟩
  · exact absurd (List.infix_refl _) (not_isInfix_of_isTyped hlit.isTyped hsentinel)

theorem type_type {c c' : Char} (hc : IsReplacing c) (hc' : IsReplacing c') :
    (s.type c).type c' = s.type c' := by
  obtain ⟨first, hfirst, hm⟩ := hc.exists_operator
  obtain ⟨second, hsecond, hm'⟩ := hc'.exists_operator
  obtain ⟨d, hd⟩ | ⟨x, rfl, hsentinel⟩ := h.shows_or_sentinel
  · by_cases hz : s.expression.evaluated = false ∧ s.mainText = emptyDisplay
    · rw [hd.type_of_showsZero hz hfirst hm]
    · exact hd.type_type_of_ne_minus hz hfirst hsecond hm hm'
  · -- after a word both keys are typed on a fresh session
    have hfresh : fresh.type c = fresh :=
      (Shows.draft Draft.wellFormed_blank).type_of_showsZero ⟨rfl, rfl⟩ hfirst hm
    have htype {k : Char} {op : Operator} (hop : Operator.ofSymbol? k = some op) :
        (ofExpression (.ofResult (Format.number x))).type k = fresh.type k := by
      rw [Session.type, ingest_of_sentinel hsentinel (mem_keyCharacters_of_ofSymbol? hop),
        Session.type]
    rw [htype hfirst, htype hsecond, hfresh]

/-- Of keys of operators other than minus the last one counts. -/
theorem typeAll_replacing {front : List Char} {c : Char}
    (hkeys : ∀ k ∈ front ++ [c], IsReplacing k) :
    s.typeAll (front ++ [c]) = s.type c := by
  have hc : IsReplacing c := hkeys c (by simp)
  induction front generalizing s with
  | nil => rfl
  | cons k rest ih =>
    have hrest : ∀ k ∈ rest ++ [c], IsReplacing k := fun k hk => hkeys k (List.mem_cons_of_mem _ hk)
    have htyped : (s.type k).typeAll (rest ++ [c]) = (s.type k).type c := ih (h.type k) hrest
    exact htyped.trans (h.type_type (hkeys k (by simp)) hc)

theorem lastOperatorWins : s.LastOperatorWins where
  last := fun _ _ => h.typeAll_replacing
  afterMinus := fun hlit hz c hc => by
    obtain ⟨op, hop, hm⟩ := hc.exists_operator
    obtain ⟨d, hd, hk⟩ := h.exists_shows_number hlit
    have hminus : Operator.ofSymbol? '-' = some .minus := rfl
    exact hd.type_type hz hminus hop (.number hk) (.number hk) (.inl hm)
  afterPlus := fun hlit hz => by
    obtain ⟨d, hd, hk⟩ := h.exists_shows_number hlit
    have hplus : Operator.ofSymbol? '+' = some .plus := rfl
    have hminus : Operator.ofSymbol? '-' = some .minus := rfl
    exact hd.type_type hz hplus hminus (.number hk) (.number hk) (.inr rfl)

end Proper

/-- In every session that a run leads to, the last of several operators is the one that counts. -/
theorem lastOperatorWins_run (commands : List Command) : (fresh.run commands).LastOperatorWins :=
  (proper_fresh.run commands).lastOperatorWins

/-- Behind a result, which goes on as a number, a times takes the place of a minus and a minus that
of a plus. -/
theorem lastOperatorWins_run_result :
    let s := fresh.run [.keys "8.5=".toList]
    IsLiteral s.expression.pending ∧
      ¬(s.expression.evaluated = false ∧ s.mainText = emptyDisplay) ∧ IsReplacing '*' ∧
        s.typeAll ['-', '*'] = s.type '*' ∧ s.typeAll ['+', '-'] = s.type '-' ∧
          (s.type '*').mainText = "8.5×".toList ∧ (s.type '-').mainText = "8.5-".toList := by
  intro s
  have hwins := lastOperatorWins_run [.keys "8.5=".toList]
  have hpending : s.expression.pending = "8.5".toList := by decide +kernel
  have hliteral : IsLiteral s.expression.pending := by
    rw [hpending]
    exact ((isLiteral_digit (by decide)).append_point (by decide)).append_digit (by decide)
  have hshown : ¬(s.expression.evaluated = false ∧ s.mainText = emptyDisplay) := by decide +kernel
  have htimes : IsReplacing '*' := ⟨by decide, rfl⟩
  exact ⟨hliteral, hshown, htimes, hwins.afterMinus hliteral hshown '*' htimes,
    hwins.afterPlus hliteral hshown, by decide +kernel, by decide +kernel⟩

/-- Behind any operator but plus a minus is the sign of the next number. -/
example : (fresh.typeAll "5*-".toList).mainText = "5×-".toList ∧
    (fresh.typeAll "5+-".toList).mainText = "5-".toList := by decide +kernel

end Session
end PocketCalc
