import PocketCalc.Proofs.Backspace

/-!
# Input that is ignored

A point, an operator or an undo that leaves the text as it was has done nothing to the tokens, to
what is being typed or to the subtotal. It does take the mark of a result away: where the text is a
result, such input is not without effect, for a digit then extends the result and a zero takes no
operator.
-/
namespace PocketCalc

/-- The input that may be ignored. -/
inductive Command.Ignorable : Command → Prop
  | point : Ignorable (.key '.')
  | operator {c : Char} {op : Operator} : Operator.ofSymbol? c = some op → Ignorable (.key c)
  | undo : Ignorable .undo

namespace Draft.ShowsZero
variable {d : Draft} (h : d.ShowsZero) {key : Key} (hdigit : key.isDigit = false)
include h hdigit

/-- Where a zero is still shown after a key that is no digit, the key has been ignored. -/
theorem step_eq_self (hafter : (d.step key).ShowsZero) : d.step key = d := by
  unfold Draft.step at hafter ⊢
  rw [if_pos h.text_eq] at hafter ⊢
  cases key with
  | digit c => cases hdigit
  | point => obtain hafter | hafter := hafter <;> cases hafter
  | operator op =>
    cases op with
    | minus => obtain hafter | hafter := hafter <;> cases hafter
    | plus | times | divide | percent | placeholder => rfl
  | equals => rfl

theorem press_eq_self (hafter : (d.press key).ShowsZero) : d.press key = d := by
  obtain rfl | rfl := h
  · rfl
  · cases key with
    | digit c => cases hdigit
    | point => obtain hafter | hafter := hafter <;> cases hafter
    | operator op => obtain hafter | hafter := hafter <;> cases hafter
    | equals => rfl

end Draft.ShowsZero

namespace Session

namespace Shows
variable {s : Session} {d : Draft} (h : s.Shows d)
include h

theorem type_eq_unmarked {c : Char} {key : Key} (hkey : Key.ofChar c = .ok key) (he : key ≠ .equals)
    (hdigit : key.isDigit = false) (hmain : (s.type c).mainText = s.mainText) :
    s.type c = s.unmarked := by
  have hlegal := Key.legal_of_ofChar hkey
  rw [h.unmarked_eq]
  by_cases hz : s.expression.evaluated = false ∧ s.mainText = emptyDisplay
  · have hzero := h.showsZero hz.2
    have htype : s.type c = ofExpression (d.step key).expression := by
      rw [h.eq_of_evaluated hz.1, type, ingest_of_showsZero hzero hkey]
    rw [htype] at hmain ⊢
    have hafter := (Shows.draft (h.wellFormed.step hlegal)).showsZero (hmain.trans hz.2)
    rw [hzero.step_eq_self hdigit hafter]
  · have htype :=
      h.type_eq_press hkey he (fun _ => hdigit) fun hevaluated hmain => hz ⟨hevaluated, hmain⟩
    have hpress := h.wellFormed.press hlegal fun _ => hdigit
    rw [htype, h.mainText_eq] at hmain
    rw [htype]
    obtain hsame | ⟨hafter, hzero⟩ := hpress.eq_or_showsZero h.wellFormed hmain
    · rw [hsame]
    · rw [hzero.press_eq_self hdigit hafter]

theorem undo_eq_unmarked_of_mainText (hmain : s.undo.mainText = s.mainText) :
    s.undo = s.unmarked := by
  by_cases hz : s.mainText = emptyDisplay
  · exact h.undo_eq_unmarked hz
  · rw [(h.mainText_undo hz).1] at hmain
    by_cases hnil : s.mainText.dropLast = []
    · rw [hnil, shown_nil] at hmain
      exact absurd hmain.symm hz
    · rw [shown_of_ne_nil hnil] at hmain
      have hlength := congrArg List.length hmain
      have hne : s.mainText ≠ [] := fun h => hnil (by rw [h, List.dropLast_nil])
      have hpos := List.length_pos_iff.2 hne
      rw [List.length_dropLast] at hlength
      omega

end Shows

/-- Taking the mark of a result away has an effect only where there is one. -/
theorem unmarked_eq_self_iff {s : Session} : s.unmarked = s ↔ s.expression.evaluated = false := by
  obtain ⟨⟨tokens, pending, display, evaluated⟩, subtotal⟩ := s
  simp [unmarked, eq_comm]

/-- No input that may be ignored leaves a word shown. -/
theorem mainText_perform_ne_of_sentinel {x : Float} (hsentinel : Format.number x ∈ sentinels)
    {command : Command} (hcommand : command.Ignorable) :
    ((ofExpression (.ofResult (Format.number x))).perform command).mainText ≠ Format.number x := by
  have hkey {c : Char} (hc : c ∈ keyCharacters) :
      ((ofExpression (.ofResult (Format.number x))).type c).mainText ≠ Format.number x := by
    intro hmain
    have hextended := (noResidue_result x).extended hsentinel c hc _ hsentinel
    rw [hmain] at hextended
    exact hextended (List.infix_refl _)
  cases hcommand with
  | point => exact hkey (by decide)
  | operator hop => exact hkey (mem_keyCharacters_of_ofSymbol? hop)
  | undo =>
    have hundo := (noResidue_result x).undo rfl hsentinel
    intro hmain
    rw [perform, hundo] at hmain
    rw [← hmain] at hsentinel
    exact absurd hsentinel (by decide)

/-- A point, an operator or an undo that leaves the text as it was does no more than take the mark
of a result away. So it is without effect exactly where no result is shown. -/
theorem perform_eq_unmarked {s : Session} {commands : List Command} (hrun : fresh.run commands = s)
    {command : Command} (hcommand : command.Ignorable)
    (hmain : (s.perform command).mainText = s.mainText) :
    s.perform command = s.unmarked ∧ (s.perform command = s ↔ s.expression.evaluated = false) := by
  have hs : s.Proper := hrun ▸ proper_fresh.run commands
  have hunmarked : s.perform command = s.unmarked := by
    obtain ⟨d, hd⟩ | ⟨x, rfl, hsentinel⟩ := hs.shows_or_sentinel
    · cases hcommand with
      | point => exact hd.type_eq_unmarked rfl (by simp) rfl hmain
      | operator hop => exact hd.type_eq_unmarked (Key.ofChar_of_ofSymbol? hop) (by simp) rfl hmain
      | undo => exact hd.undo_eq_unmarked_of_mainText hmain
    · exact absurd hmain (mainText_perform_ne_of_sentinel hsentinel hcommand)
  exact ⟨hunmarked, by rw [hunmarked, unmarked_eq_self_iff]⟩

/-- An operator behind a lone sign is without effect. -/
theorem perform_eq_unmarked_sign :
    let s := fresh.run [.keys "6×-".toList]
    Command.Ignorable (.key '/') ∧ (s.perform (.key '/')).mainText = s.mainText ∧
      s.perform (.key '/') = s.unmarked ∧
        (s.perform (.key '/') = s ↔ s.expression.evaluated = false) := by
  intro s
  have hdivide : Operator.ofSymbol? '/' = some .divide := rfl
  have hignorable : Command.Ignorable (.key '/') := .operator hdivide
  have hmain : (s.perform (.key '/')).mainText = s.mainText := by decide +kernel
  exact ⟨hignorable, hmain, perform_eq_unmarked rfl hignorable hmain⟩

/-- A zero that is a result takes an operator, but not after an undo that has left it in place. A
digit takes the place of a result, but not after a second point. -/
theorem ignored_input_unmarks :
    let zero := fresh.run [.keys "5-5=".toList]
    let fraction := fresh.run [.keys "1.5=".toList]
    (zero.undo.mainText = zero.mainText ∧ zero.undo ≠ zero ∧
      (zero.type '+').mainText = "0+".toList ∧ (zero.undo.type '+').mainText = "0".toList) ∧
    (fraction.type '.').mainText = fraction.mainText ∧ fraction.type '.' ≠ fraction ∧
      (fraction.type '2').mainText = "2".toList ∧
        ((fraction.type '.').type '2').mainText = "1.52".toList := by
  decide +kernel

end Session
end PocketCalc
