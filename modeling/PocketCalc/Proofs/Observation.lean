import PocketCalc.Proofs.Retyping

/-!
# What a session shows

The text of a draft can be read in one way only, for each of its characters has one place to go to.
So what a session shows, with the mark of a result, settles its tokens and its subtotal, and nothing
it is told later can bring out how it got there. Only the empty draft and a single zero look alike.
They are different drafts, but no command tells them apart.
-/
namespace PocketCalc

namespace Draft

/-- The draft with one character more, wherever its place is. -/
def grown (d : Draft) (c : Char) : Draft :=
  match d.kind with
  | .empty | .sign => d.extend [c]
  | .number => if c.isDigit ∨ c = '.' then d.extend [c] else d.push d.token [c]
  | .operator _ => d.push d.token [c]

/-- The character a draft grows by settles what it grows to. -/
theorem Grows.eq_grown {before after : Draft} {c : Char} (h : Grows before c after)
    (hbefore : before.WellFormed) (hafter : after.WellFormed) : after = before.grown c := by
  cases h with
  | first _ => rfl
  | @digit tokens front _ hfront hc =>
    obtain hlit | rfl := hfront
    · have hk : kind ⟨tokens, front⟩ = .number := kind_of_isLiteral hlit
      simp only [grown, hk, hc, true_or, if_true, extend]
    · have heven : tokens.length % 2 = 0 := hafter.even_of_isLiteral (isLiteral_minus_digit hc)
      have hk : kind ⟨tokens, ['-']⟩ = .sign := Expression.kindOf_minus hbefore.alternating heven
      simp only [grown, hk, extend]
  | @point tokens front hlit _ =>
    have hk : kind ⟨tokens, front⟩ = .number := kind_of_isLiteral hlit
    simp only [grown, hk, or_true, if_true, extend]
  | operand hs _ =>
    have hodd := hafter.alternating.of_append_singleton.2.1
    simp only [grown, kind_of_symbol? hbefore hodd hs, token_of_symbol? hbefore hodd hs, push]
  | @operator tokens value literal _ _ hlit hread hs =>
    have hk : kind ⟨tokens, literal⟩ = .number := kind_of_isLiteral hlit
    have htoken : token ⟨tokens, literal⟩ = .number value literal := token_of_isLiteral hlit hread
    have hpoint : c ≠ '.' := by
      rintro rfl
      exact absurd (Operator.isSymbol_iff.2 ⟨_, hs⟩) (by decide)
    simp only [grown, hk, not_isDigit_of_symbol? hs, hpoint, Bool.false_eq_true, or_self, if_false,
      push, htoken]

theorem WellFormed.eq_of_text_eq {d d' : Draft} (h : d.WellFormed) (h' : d'.WellFormed)
    (ht : d.text = d'.text) : d = d' := by
  -- both have grown by their last character, from drafts of the same text
  induction h using WellFormed.growth_induction generalizing d' with
  | empty => exact (h'.text_eq_nil_iff.1 ht.symm).symm
  | @grows before c after hbefore hafter hgrows ih =>
    have hne : d' ≠ blank := by
      rintro rfl
      have hnil : before.text ++ [c] = [] := hgrows.text_eq.symm.trans ht
      simp at hnil
    obtain ⟨before', c', hbefore', hgrows'⟩ := h'.exists_grows hne
    rw [hgrows.text_eq, hgrows'.text_eq] at ht
    obtain ⟨hfront, hlast⟩ := List.append_inj' ht rfl
    obtain rfl := List.singleton_inj.1 hlast
    obtain rfl := ih hbefore' hfront
    rw [hgrows.eq_grown hbefore hafter, hgrows'.eq_grown hbefore h']

/-- The two drafts that show a single zero. -/
def ShowsZero (d : Draft) : Prop := d = blank ∨ d = first ['0']

theorem ShowsZero.text_eq {d : Draft} (h : d.ShowsZero) : d.text = [] ∨ d.text = ['0'] := by
  obtain rfl | rfl := h
  · exact .inl rfl
  · exact .inr rfl

theorem ShowsZero.wellFormed {d : Draft} (h : d.ShowsZero) : d.WellFormed := by
  obtain rfl | rfl := h
  · exact wellFormed_blank
  · exact wellFormed_of_fragment (.numeral rfl (isLiteral_digit rfl))
      (noLeadingZero_of_length_le (by simp))

theorem WellFormed.showsZero_of_text {d : Draft} (h : d.WellFormed)
    (ht : d.text = [] ∨ d.text = ['0']) : d.ShowsZero :=
  ht.imp h.text_eq_nil_iff.1 h.eq_of_text_eq_zero

/-- Drafts with the same display are the same or show a single zero. -/
theorem WellFormed.eq_or_showsZero {d d' : Draft} (h : d.WellFormed) (h' : d'.WellFormed)
    (hdisplay : shown d.text = shown d'.text) : d = d' ∨ d.ShowsZero ∧ d'.ShowsZero := by
  by_cases hz : shown d.text = emptyDisplay
  · have hz' : shown d'.text = emptyDisplay := hdisplay.symm.trans hz
    exact .inr ⟨h.showsZero_of_text (shown_eq_emptyDisplay_iff.1 hz),
      h'.showsZero_of_text (shown_eq_emptyDisplay_iff.1 hz')⟩
  · have hne : d.text ≠ [] := fun ht => hz (by rw [ht]; rfl)
    have hne' : d'.text ≠ [] := fun ht => hz (by rw [hdisplay, ht]; rfl)
    rw [shown_of_ne_nil hne, shown_of_ne_nil hne'] at hdisplay
    exact .inl (h.eq_of_text_eq h' hdisplay)

/-- A key does the same to both drafts that show a single zero, or nothing to either. -/
theorem ShowsZero.step_eq {d d' : Draft} (h : d.ShowsZero) (h' : d'.ShowsZero) (key : Key) :
    d.step key = d'.step key ∨ d.step key = d ∧ d'.step key = d' := by
  simp only [Draft.step, if_pos h.text_eq, if_pos h'.text_eq]
  cases Expression.openingText? key with
  | some text => exact .inl rfl
  | none => exact .inr ⟨rfl, rfl⟩

end Draft

/-- What can be seen of a session when it has performed a command: what it shows, whether that is a
result, and why the command was refused, if it was. -/
structure Observation where
  readout : Readout
  evaluated : Bool
  refusal : Option CalcError
deriving DecidableEq

namespace Session

def refusal (s : Session) : Command → Option CalcError
  | .key c => (s.ingest c).2
  | .keys _ | .undo | .reset => none

def observe (s : Session) (command : Command) : Observation :=
  ⟨(s.perform command).readout, (s.perform command).expression.evaluated, s.refusal command⟩

/-- What can be seen of a session while it performs several commands. -/
def observations (s : Session) : List Command → List Observation
  | [] => []
  | command :: rest => s.observe command :: (s.perform command).observations rest

/-- Whether two sessions are the same or both show a single zero that is no result. -/
inductive Alike : Session → Session → Prop
  | refl (s : Session) : Alike s s
  | zero {d d' : Draft} : d.ShowsZero → d'.ShowsZero →
      Alike (ofExpression d.expression) (ofExpression d'.expression)

theorem ingest_of_showsZero {d : Draft} (h : d.ShowsZero) {c : Char} {key : Key}
    (hkey : Key.ofChar c = .ok key) :
    (ofExpression d.expression).ingest c = (ofExpression (d.step key).expression, none) := by
  have hstep := h.wellFormed.step_expression (Key.legal_of_ofChar hkey) fun _ => h.text_eq
  simp only [ingest, hkey, ofExpression, hstep]

namespace Alike
variable {s t : Session} (h : Alike s t)
include h

theorem readout_eq : s.readout = t.readout ∧ s.expression.evaluated = t.expression.evaluated := by
  cases h with
  | refl => exact ⟨rfl, rfl⟩
  | zero hd hd' =>
    obtain rfl | rfl := hd <;> obtain rfl | rfl := hd' <;> exact ⟨rfl, rfl⟩

/-- Alike sessions refuse the same characters and stay alike with all others. -/
theorem ingest (c : Char) :
    (s.ingest c).2 = (t.ingest c).2 ∧ Alike (s.type c) (t.type c) := by
  cases h with
  | refl => exact ⟨rfl, .refl _⟩
  | @zero d d' hd hd' =>
    cases hkey : Key.ofChar c with
    | error error =>
      simp only [type, Session.ingest, hkey]
      exact ⟨trivial, .zero hd hd'⟩
    | ok key =>
      simp only [type, ingest_of_showsZero hd hkey, ingest_of_showsZero hd' hkey, true_and]
      obtain hsame | ⟨hd_same, hd'_same⟩ := hd.step_eq hd' key
      · rw [hsame]
        exact .refl _
      · rw [hd_same, hd'_same]
        exact .zero hd hd'

theorem typeAll (text : List Char) : Alike (s.typeAll text) (t.typeAll text) := by
  induction text generalizing s t with
  | nil => exact h
  | cons c rest ih => exact ih (h.ingest c).2

theorem undo : Alike s.undo t.undo := by
  cases h with
  | refl => exact .refl _
  | zero hd hd' =>
    have hsame {d : Draft} (hd : d.ShowsZero) :
        (ofExpression d.expression).undo = ofExpression d.expression := by
      obtain rfl | rfl := hd <;> rfl
    rw [hsame hd, hsame hd']
    exact .zero hd hd'

theorem perform (command : Command) : Alike (s.perform command) (t.perform command) := by
  cases command with
  | key c => exact (h.ingest c).2
  | keys text => exact h.typeAll text
  | undo => exact h.undo
  | reset => exact .refl _

theorem observe_eq (command : Command) : s.observe command = t.observe command := by
  obtain ⟨hreadout, hevaluated⟩ := (h.perform command).readout_eq
  have hrefusal : s.refusal command = t.refusal command := by
    cases command with
    | key c => exact (h.ingest c).1
    | keys _ | undo | reset => rfl
  simp only [observe, hreadout, hevaluated, hrefusal]

/-- No commands tell alike sessions apart. -/
theorem observations_eq (commands : List Command) :
    s.observations commands = t.observations commands := by
  induction commands generalizing s t with
  | nil => rfl
  | cons command rest ih => rw [observations, observations, h.observe_eq, ih (h.perform command)]

end Alike

/-- Proper sessions that show the same, with the same mark of a result, are alike. -/
theorem Proper.alike {s t : Session} (hs : s.Proper) (ht : t.Proper)
    (hmain : s.mainText = t.mainText)
    (hevaluated : s.expression.evaluated = t.expression.evaluated) : Alike s t := by
  obtain ⟨d, hd, rfl⟩ | ⟨x, rfl⟩ := hs.cases <;> obtain ⟨d', hd', rfl⟩ | ⟨x', rfl⟩ := ht.cases
  · obtain rfl | ⟨hzero, hzero'⟩ := hd.eq_or_showsZero hd' hmain
    · exact .refl _
    · exact .zero hzero hzero'
  · cases hevaluated
  · cases hevaluated
  · have hsame : Format.number x = Format.number x' := hmain
    rw [hsame]
    exact .refl _

theorem Alike.tokens_eq {s t : Session} (h : Alike s t) :
    s.expression.tokens = t.expression.tokens := by
  cases h with
  | refl => rfl
  | zero hd hd' => obtain rfl | rfl := hd <;> obtain rfl | rfl := hd' <;> rfl

/-- Zeros are typed as a single zero. -/
theorem showsZero_typeAll_replicate (n : Nat) :
    ∃ d : Draft, d.ShowsZero ∧
      fresh.typeAll (List.replicate n '0') = ofExpression d.expression := by
  induction n with
  | zero => exact ⟨_, .inl rfl, rfl⟩
  | succ n ih =>
    obtain ⟨d, hd, htyped⟩ := ih
    have hlast : fresh.typeAll (List.replicate (n + 1) '0') =
        (fresh.typeAll (List.replicate n '0')).type '0' := by
      rw [List.replicate_succ', typeAll_append]
      rfl
    refine ⟨.first ['0'], .inr rfl, ?_⟩
    rw [hlast, htyped]
    obtain rfl | rfl := hd <;> rfl

/-- What sessions show and whether that is a result settles their tokens, their subtotals
and all that can be seen of them later. In particular zeros that have been typed are
never told from nothing. -/
theorem observations_eq_of_mainText_eq :
    (∀ first second : List Command, (fresh.run first).mainText = (fresh.run second).mainText →
      (fresh.run first).expression.evaluated = (fresh.run second).expression.evaluated →
        (fresh.run first).expression.tokens = (fresh.run second).expression.tokens ∧
          (fresh.run first).subtotal = (fresh.run second).subtotal ∧
            ∀ later, (fresh.run first).observations later = (fresh.run second).observations later) ∧
      ∀ (n : Nat) (later : List Command),
        (fresh.typeAll (List.replicate n '0')).observations later = fresh.observations later := by
  refine ⟨fun first second hmain hevaluated => ?_, fun n later => ?_⟩
  · have halike := (proper_fresh.run first).alike (proper_fresh.run second) hmain hevaluated
    have hsubtotal := congrArg Readout.subtotal halike.readout_eq.1
    exact ⟨halike.tokens_eq, hsubtotal, halike.observations_eq⟩
  · obtain ⟨d, hd, htyped⟩ := showsZero_typeAll_replicate n
    have hfresh : Draft.ShowsZero .blank := .inl rfl
    rw [htyped]
    exact (Alike.zero hd hfresh).observations_eq later

/-- An operator taken over another, and the sign after it, leave no trace once they are shown. -/
theorem observations_eq_of_mainText_eq_retouched :
    let retouched : List Command := [.keys "7+5".toList, .undo, .key '*', .key '-', .key '2']
    let straight : List Command := [.keys "7×-2".toList]
    (fresh.run retouched).mainText = (fresh.run straight).mainText ∧
      (fresh.run retouched).expression.evaluated = (fresh.run straight).expression.evaluated ∧
        (fresh.run retouched).expression.tokens = (fresh.run straight).expression.tokens ∧
          (fresh.run retouched).subtotal = (fresh.run straight).subtotal ∧
            ∀ later, (fresh.run retouched).observations later =
              (fresh.run straight).observations later := by
  intro retouched straight
  have hmain : (fresh.run retouched).mainText = (fresh.run straight).mainText := by decide +kernel
  have hevaluated :
      (fresh.run retouched).expression.evaluated = (fresh.run straight).expression.evaluated := by
    decide +kernel
  exact ⟨hmain, hevaluated, observations_eq_of_mainText_eq.1 _ _ hmain hevaluated⟩

end Session
end PocketCalc
