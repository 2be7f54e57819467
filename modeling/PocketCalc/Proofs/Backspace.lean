import PocketCalc.Proofs.Collapse
import PocketCalc.Proofs.Observation
import PocketCalc.Proofs.Sentinels

/-!
# Taking characters back

Undo acts on a finite result as on the numeral it is shown by. It takes one character off the
display, so that it takes back any key that has put one there, and as many of them as there are
characters clear the display. Since a text is that of one draft only, the tokens come back as they
were.
-/
namespace PocketCalc

namespace Draft

/-- The draft that undo on the expression leads to: a single zero stays. -/
def backspace (d : Draft) : Draft := if d.text = ['0'] then d else d.undo

/-- A draft whose text is one character longer than that of another one has grown from it. -/
theorem WellFormed.undo_eq_of_text {d longer : Draft} (h : d.WellFormed)
    (hlonger : longer.WellFormed) {c : Char} (ht : longer.text = d.text ++ [c]) :
    longer.undo = d := by
  have hne : longer ≠ blank := by
    rintro rfl
    simp [text, blank] at ht
  obtain ⟨before, c', hbefore, hgrows⟩ := hlonger.exists_grows hne
  rw [hgrows.text_eq] at ht
  rw [hgrows.undo_eq]
  exact hbefore.eq_of_text_eq h (List.append_inj' ht rfl).1

namespace WellFormed
variable {d : Draft} (h : d.WellFormed)
include h

theorem undo_expression_eq : d.expression.undo = d.backspace.expression := by
  by_cases hblank : d = blank
  · subst hblank
    rfl
  · have hdisplay : d.expression.display = d.text := h.display_of_ne_blank hblank
    by_cases hz : d.text = ['0']
    · have hempty : d.expression.display = emptyDisplay := hdisplay.trans hz
      rw [Draft.backspace, if_pos hz, Expression.undo, if_pos hempty]
    · rw [Draft.backspace, if_neg hz]
      exact h.undo_expression fun hempty => hz (hdisplay.symm.trans hempty)

theorem text_undo : d.undo.text = d.text.dropLast := by
  by_cases hblank : d = blank
  · subst hblank
    rfl
  · obtain ⟨before, c, -, hgrows⟩ := h.exists_grows hblank
    rw [hgrows.undo_eq, hgrows.text_eq, List.dropLast_concat]

end WellFormed
end Draft

namespace Session

/-- The session without the mark of a result. -/
def unmarked (s : Session) : Session :=
  { s with expression := { s.expression with evaluated := false } }

/-- Whether a session shows a draft, perhaps as a result. -/
inductive Shows : Session → Draft → Prop
  | draft {d : Draft} : d.WellFormed → Shows (ofExpression d.expression) d
  | result {x : Float} : (Numeral.read? (Format.number x)).any Float.isFinite = true →
      Shows (ofExpression (.ofResult (Format.number x))) (.first (Format.number x))

/-- A session that shows no draft shows a word. -/
theorem Proper.shows_or_sentinel {s : Session} (h : s.Proper) : (∃ d, s.Shows d) ∨
    ∃ x, s = ofExpression (.ofResult (Format.number x)) ∧ Format.number x ∈ sentinels := by
  obtain ⟨d, hd, rfl⟩ | ⟨x, rfl⟩ := h.cases
  · exact .inl ⟨d, .draft hd⟩
  · cases hfinite : (Numeral.read? (Format.number x)).any Float.isFinite with
    | true => exact .inl ⟨_, .result hfinite⟩
    | false => exact .inr ⟨x, rfl, Format.number_mem_sentinels_iff.2 hfinite⟩

namespace Shows
variable {s : Session} {d : Draft} (h : s.Shows d)
include h

theorem wellFormed : d.WellFormed := by
  cases h with
  | draft hd => exact hd
  | result hfinite => exact Expression.wellFormed_first_of_isShown (isShown_of_isFinite hfinite)

theorem unmarked_eq : s.unmarked = ofExpression d.expression := by
  cases h with
  | draft _ => rfl
  | result hfinite =>
    rw [Expression.expression_first_of_isShown (isShown_of_isFinite hfinite)]
    rfl

theorem eq_of_evaluated (hevaluated : s.expression.evaluated = false) :
    s = ofExpression d.expression := by
  cases h with
  | draft _ => rfl
  | result _ => cases hevaluated

theorem mainText_eq : s.mainText = shown d.text := congrArg mainText h.unmarked_eq

theorem tokens_eq : s.expression.tokens = d.tokens :=
  congrArg (fun s : Session => s.expression.tokens) h.unmarked_eq

theorem pending_eq : s.expression.pending = d.pending :=
  congrArg (fun s : Session => s.expression.pending) h.unmarked_eq

theorem kind_eq : s.expression.fragmentKind = d.kind :=
  congrArg (fun s : Session => s.expression.fragmentKind) h.unmarked_eq

theorem isFinite (hevaluated : s.expression.evaluated = true) : s.expression.isFinite = true := by
  cases h with
  | draft _ => cases hevaluated
  | result hfinite => exact hfinite

/-- Undo does not look at the mark of a result. -/
theorem undo_eq : s.undo = ofExpression d.backspace.expression := by
  have hfinite : (s.expression.evaluated && !s.expression.isFinite) = false := by
    cases hevaluated : s.expression.evaluated with
    | true => simp [h.isFinite hevaluated]
    | false => rfl
  have hdraft : { s.expression with evaluated := false } = d.expression :=
    congrArg Session.expression h.unmarked_eq
  have hundo := Expression.undo_evaluated s.expression false
  rw [hdraft, h.wellFormed.undo_expression_eq] at hundo
  simp only [undo, hfinite, Bool.false_eq_true, if_false, ← hundo]
  rfl

end Shows

/-- A session shows a draft unless it shows a result that is no finite number. -/
theorem Proper.exists_shows {s : Session} (h : s.Proper)
    (hfinite : s.expression.evaluated = true → s.expression.isFinite = true) : ∃ d, s.Shows d := by
  obtain hd | ⟨x, rfl, hsentinel⟩ := h.shows_or_sentinel
  · exact hd
  · cases (Format.number_mem_sentinels_iff.1 hsentinel).symm.trans (hfinite rfl)

theorem run_replicate_undo_succ (s : Session) (n : Nat) :
    s.run (List.replicate (n + 1) .undo) = s.undo.run (List.replicate n .undo) := by
  rw [List.replicate_succ]
  rfl

/-- What undo does to a session. A result that is no finite number is dropped, a zero stays but not
as a result, and anything else loses its last character. As many undos as there are characters clear
the session, and further ones keep it clear. -/
structure Backspaces (s : Session) : Prop where
  dropped : s.expression.evaluated = true → s.expression.isFinite = false → s.undo = fresh
  kept : (s.expression.evaluated = true → s.expression.isFinite = true) →
    s.mainText = emptyDisplay → s.undo = s.unmarked
  shortened : (s.expression.evaluated = true → s.expression.isFinite = true) →
    s.mainText ≠ emptyDisplay → s.undo.mainText = shown s.mainText.dropLast ∧
      (s.mainText.dropLast = [] → s.undo = fresh) ∧ s.undo.expression.evaluated = false
  cleared : ∀ n, s.mainText.length ≤ n →
    (s.run (List.replicate n .undo)).mainText = emptyDisplay ∧
      (s.run (List.replicate n .undo)).expression.tokens = [] ∧
        (s.run (List.replicate n .undo)).subtotal = []

namespace Shows
variable {s : Session} {d : Draft} (h : s.Shows d)
include h

theorem showsZero (hz : s.mainText = emptyDisplay) : d.ShowsZero :=
  h.wellFormed.showsZero_of_text (shown_eq_emptyDisplay_iff.1 (h.mainText_eq.symm.trans hz))

/-- A zero stays after undo. -/
theorem undo_eq_unmarked (hz : s.mainText = emptyDisplay) : s.undo = s.unmarked := by
  rw [h.undo_eq, h.unmarked_eq]
  obtain rfl | rfl := h.showsZero hz <;> rfl

/-- Undo takes the last character off any other text. -/
theorem undo_of_ne_zero (hz : s.mainText ≠ emptyDisplay) :
    s.mainText = d.text ∧ s.undo = ofExpression d.undo.expression := by
  have hmain := h.mainText_eq
  have hnil : d.text ≠ [] := fun hnil => hz (by rw [hmain, hnil]; rfl)
  have hzero : d.text ≠ ['0'] := fun hzero => hz (by rw [hmain, hzero]; rfl)
  rw [hmain, shown_of_ne_nil hnil, h.undo_eq, Draft.backspace, if_neg hzero]
  exact ⟨rfl, rfl⟩

theorem mainText_undo (hz : s.mainText ≠ emptyDisplay) :
    s.undo.mainText = shown s.mainText.dropLast ∧ (s.mainText.dropLast = [] → s.undo = fresh) ∧
      s.undo.expression.evaluated = false := by
  obtain ⟨hmain, hundo⟩ := h.undo_of_ne_zero hz
  have htext : d.undo.text = s.mainText.dropLast := by rw [hmain, h.wellFormed.text_undo]
  rw [hundo, ← htext]
  refine ⟨rfl, fun hnil => ?_, rfl⟩
  rw [h.wellFormed.undo.text_eq_nil_iff.1 hnil]
  rfl

end Shows

namespace Proper
variable {s : Session} (h : s.Proper)
include h

theorem mainText_ne_nil : s.mainText ≠ [] := by
  obtain ⟨d, hd⟩ | ⟨x, rfl, -⟩ := h.shows_or_sentinel
  · rw [hd.mainText_eq, shown]
    split
    · decide
    · assumption
  · exact Expression.number_ne_nil x

theorem mainText_undo : s.undo.mainText = emptyDisplay ∨ s.undo.mainText = s.mainText.dropLast := by
  obtain ⟨d, hd⟩ | ⟨x, rfl, hsentinel⟩ := h.shows_or_sentinel
  · by_cases hz : s.mainText = emptyDisplay
    · rw [hd.undo_eq_unmarked hz]
      exact .inl hz
    · rw [(hd.mainText_undo hz).1]
      by_cases hnil : s.mainText.dropLast = []
      · exact .inl (by rw [hnil, shown_nil])
      · exact .inr (shown_of_ne_nil hnil)
  · have hundo := undo_of_dropped (s := ofExpression (.ofResult (Format.number x))) rfl
      (Format.number_mem_sentinels_iff.1 hsentinel)
    rw [hundo]
    exact .inl rfl

/-- As many undos as there are characters lead to a zero. -/
theorem mainText_run_undo {n : Nat} (hn : s.mainText.length ≤ n) :
    (s.run (List.replicate n .undo)).mainText = emptyDisplay := by
  induction n generalizing s with
  | zero => exact absurd (List.eq_nil_of_length_eq_zero (Nat.le_zero.1 hn)) h.mainText_ne_nil
  | succ n ih =>
    rw [run_replicate_undo_succ]
    obtain hzero | hshorter := h.mainText_undo
    · obtain rfl | hpos := Nat.eq_zero_or_pos n
      · exact hzero
      · exact ih h.undo (by rw [hzero]; exact hpos)
    · refine ih h.undo ?_
      rw [hshorter, List.length_dropLast]
      omega

theorem backspaces : s.Backspaces where
  dropped := undo_of_dropped
  kept := fun hfinite hz => by
    obtain ⟨d, hd⟩ := h.exists_shows hfinite
    exact hd.undo_eq_unmarked hz
  shortened := fun hfinite hz => by
    obtain ⟨d, hd⟩ := h.exists_shows hfinite
    exact hd.mainText_undo hz
  cleared := fun n hn => by
    have hrun := h.run (List.replicate n .undo)
    have hz := h.mainText_run_undo hn
    have htokens : (s.run (List.replicate n .undo)).expression.tokens = [] := by
      obtain ⟨d, hd⟩ | ⟨x, hresult, -⟩ := hrun.shows_or_sentinel
      · rw [hd.tokens_eq]
        exact hd.wellFormed.tokens_eq_nil_of_text (hd.showsZero hz).text_eq
      · rw [hresult]
        rfl
    refine ⟨hz, htokens, ?_⟩
    rw [hrun.subtotal, Expression.subtotal_of_tokens_eq_nil htokens]

end Proper

/-- Undo takes back one character, and repeated undo clears everything. -/
theorem backspaces_run (commands : List Command) : (fresh.run commands).Backspaces :=
  (proper_fresh.run commands).backspaces

namespace Shows
variable {s : Session} {d : Draft} (h : s.Shows d)
include h

theorem type_eq_press {c : Char} {key : Key} (hkey : Key.ofChar c = .ok key) (he : key ≠ .equals)
    (hresult : s.expression.evaluated = true → key.isDigit = false)
    (hzero : s.expression.evaluated = false → s.mainText ≠ emptyDisplay) :
    s.type c = ofExpression (d.press key).expression := by
  have hlegal := Key.legal_of_ofChar hkey
  cases h with
  | draft hd =>
    have hz : ¬(d.text = [] ∨ d.text = ['0']) :=
      fun hz => hzero rfl (shown_eq_emptyDisplay_iff.2 hz)
    have hstep := hd.step_expression hlegal fun hequals => absurd hequals he
    rw [type_of_step hkey hstep, Draft.step, if_neg hz]
  | @result x hfinite =>
    have hshown := isShown_of_isFinite hfinite
    have hk : (Draft.first (Format.number x)).kind = .number :=
      Draft.kind_of_isLiteral hshown.isLiteral
    have hd := Expression.wellFormed_first_of_isShown hshown
    exact type_ofResult hfinite hkey (hresult rfl) (hd.press_expression (by simp [hk]) hlegal he)

end Shows

/-- A key other than equals acts on the draft that is shown, unless a result is dropped for it. -/
theorem Proper.type_cases {s : Session} (h : s.Proper) {c : Char} {key : Key}
    (hkey : Key.ofChar c = .ok key) (he : key ≠ .equals) :
    (∃ d : Draft, d.WellFormed ∧ s = ofExpression d.expression ∧
      s.type c = ofExpression (d.step key).expression) ∨
    (∃ x, s = ofExpression (.ofResult (Format.number x)) ∧
      s.type c = ofExpression (Draft.blank.step key).expression) ∨
    ∃ d, s.Shows d ∧ key.isDigit = false ∧ s.type c = ofExpression (d.press key).expression := by
  obtain ⟨d, hd, rfl⟩ | ⟨x, rfl⟩ := h.cases
  · have hstep := hd.step_expression (Key.legal_of_ofChar hkey) fun hequals => absurd hequals he
    exact .inl ⟨d, hd, rfl, type_of_step hkey hstep⟩
  · cases hcarries : (Expression.ofResult (Format.number x)).carriesOver key with
    | false =>
      refine .inr (.inl ⟨x, rfl, ?_⟩)
      rw [Session.type, ingest_ofResult_of_dropped hkey hcarries]
      exact type_fresh hkey
    | true =>
      obtain ⟨hdigit, hfinite⟩ := Expression.carriesOver_ofResult.1 hcarries
      have hshows := Shows.result hfinite
      have htype :=
        hshows.type_eq_press hkey he (fun _ => hdigit) fun hevaluated => by cases hevaluated
      exact .inr (.inr ⟨_, hshows, hdigit, htype⟩)

theorem Proper.exists_type {s : Session} (h : s.Proper) {c : Char} {key : Key}
    (hkey : Key.ofChar c = .ok key) (he : key ≠ .equals) :
    ∃ d : Draft, d.WellFormed ∧ s.type c = ofExpression d.expression := by
  have hlegal := Key.legal_of_ofChar hkey
  obtain ⟨d, hd, -, htype⟩ | ⟨x, -, htype⟩ | ⟨d, hshows, hdigit, htype⟩ := h.type_cases hkey he
  · exact ⟨_, hd.step hlegal, htype⟩
  · exact ⟨_, Draft.wellFormed_blank.step hlegal, htype⟩
  · exact ⟨_, hshows.wellFormed.press hlegal fun _ => hdigit, htype⟩

end Session

/-- Whether a key puts one character behind a fragment. -/
inductive Key.Extends : Key → FragmentKind → List Char → Prop
  | digit {c : Char} {kind : FragmentKind} {pending : List Char} : kind ≠ .empty →
      Extends (.digit c) kind pending
  | point {pending : List Char} : '.' ∉ pending → Extends .point .number pending
  | operator {op : Operator} {pending : List Char} : Extends (.operator op) .number pending
  | sign {op : Operator} {pending : List Char} : op ≠ .plus →
      Extends (.operator .minus) (.operator op) pending

/-- A key that extends the fragment of a draft puts one character behind its text. -/
theorem Draft.WellFormed.exists_text_press {d : Draft} (h : d.WellFormed) {key : Key}
    (hlegal : key.Legal) (hextends : key.Extends d.kind d.pending) :
    ∃ c, (d.press key).text = d.text ++ [c] := by
  have hpush (hk : d.kind ≠ .empty) (hs : d.kind ≠ .sign) (next : List Char) :
      (d.push d.token next).text = d.text ++ next := text_push d (h.token_spec hk hs).2.1 next
  generalize hk : d.kind = kind at hextends
  cases hextends with
  | @digit c _ _ hempty =>
    refine ⟨c, ?_⟩
    cases kind with
    | empty => exact absurd rfl hempty
    | number | sign => simp only [Draft.press, hk, pressNumber, pressSign, text_extend]
    | operator op => simp only [Draft.press, hk, pressOperator, hpush (by simp [hk]) (by simp [hk])]
  | point hp => exact ⟨'.', by simp only [Draft.press, hk, pressNumber, hp, if_false, text_extend]⟩
  | operator =>
    obtain - | - | @⟨op, symbol, hs⟩ := hlegal
    refine ⟨symbol, ?_⟩
    rw [← Operator.text_of_symbol? hs]
    simp only [Draft.press, hk, pressNumber, hpush (by simp [hk]) (by simp [hk])]
  | sign hplus =>
    refine ⟨'-', ?_⟩
    simp only [Draft.press, hk, pressOperator, hplus, if_false, hpush (by simp [hk]) (by simp [hk])]

namespace Session

/-- Whether a key puts one character behind what a session shows. A digit starts anew after
a result, and any key does after one that is no finite number; on a zero that is no result
only a point counts. -/
structure Extends (s : Session) (key : Key) : Prop where
  fragment : key.Extends s.expression.fragmentKind s.expression.pending
  result : s.expression.evaluated = true → key.isDigit = false ∧ s.expression.isFinite = true
  zero : s.expression.evaluated = false → s.mainText = emptyDisplay → key = .point

namespace Shows
variable {s : Session} {d : Draft} (h : s.Shows d)
include h

theorem mainText_eq_text (hblank : s.expression.isBlank = false) : s.mainText = d.text := by
  rw [h.mainText_eq]
  refine shown_of_ne_nil fun hnil => ?_
  have hsame : s.expression.isBlank = d.expression.isBlank :=
    congrArg (fun s : Session => s.expression.isBlank) h.unmarked_eq
  rw [hblank, h.wellFormed.text_eq_nil_iff.1 hnil] at hsame
  cases hsame

/-- A key that extends what is shown puts one character behind it. -/
theorem exists_mainText_type (hblank : s.expression.isBlank = false) {c : Char} {key : Key}
    (hkey : Key.ofChar c = .ok key) (hextends : s.Extends key) :
    ∃ last, (s.type c).mainText = s.mainText ++ [last] := by
  have hmain := h.mainText_eq_text hblank
  have hlegal := Key.legal_of_ofChar hkey
  by_cases hz : s.expression.evaluated = false ∧ s.mainText = emptyDisplay
  · obtain rfl := hextends.zero hz.1 hz.2
    obtain rfl | rfl := h.showsZero hz.2
    · exact absurd (hz.2.symm.trans hmain) (by decide)
    · refine ⟨'.', ?_⟩
      rw [h.eq_of_evaluated hz.1, type_of_step hkey rfl]
      rfl
  · have hequals : key ≠ .equals := by
      rintro rfl
      cases hextends.fragment
    have hpress := h.type_eq_press hkey hequals (fun hevaluated => (hextends.result hevaluated).1)
      fun hevaluated hzero => hz ⟨hevaluated, hzero⟩
    have hfragment := hextends.fragment
    rw [h.kind_eq, h.pending_eq] at hfragment
    obtain ⟨last, htext⟩ := h.wellFormed.exists_text_press hlegal hfragment
    refine ⟨last, ?_⟩
    rw [hpress, hmain, ← htext]
    exact shown_of_ne_nil (by simp [htext])

end Shows

/-- Undo takes a character back that has been put behind what was shown. -/
theorem Proper.undo_type {s : Session} (h : s.Proper) (hblank : s.expression.isBlank = false)
    {c : Char} {key : Key} (hkey : Key.ofChar c = .ok key) (he : key ≠ .equals) {last : Char}
    (hlonger : (s.type c).mainText = s.mainText ++ [last]) : (s.type c).undo = s.unmarked := by
  obtain ⟨longer, hwellFormed, htype⟩ := h.exists_type hkey he
  rw [htype] at hlonger ⊢
  obtain ⟨d, hd⟩ | ⟨x, rfl, hsentinel⟩ := h.shows_or_sentinel
  · have hz : (ofExpression longer.expression).mainText ≠ emptyDisplay := by
      intro hzero
      have hfront : s.mainText ++ [last] = [] ++ ['0'] := hlonger.symm.trans hzero
      exact h.mainText_ne_nil (List.append_inj' hfront rfl).1
    obtain ⟨hmain, hundo⟩ := (Shows.draft hwellFormed).undo_of_ne_zero hz
    rw [hmain, hd.mainText_eq_text hblank] at hlonger
    rw [hundo, hd.wellFormed.undo_eq_of_text hwellFormed hlonger, hd.unmarked_eq]
  · -- no draft shows a word
    have hword : Format.number x <:+: longer.expression.display := by
      have hdisplay : longer.expression.display = Format.number x ++ [last] := hlonger
      rw [hdisplay]
      exact (List.prefix_append _ _).isInfix
    exact absurd hword (not_isInfix_of_isTyped hwellFormed.isTyped_display hsentinel)

/-- Where a key other than equals has put one character behind what was shown, undo takes it
back with all it has done. So it is for digits behind a number, a sign or an operator, for
the point of a number, for operators behind a number and for signs behind an operator, also
after a finite result. -/
theorem undo_type_run {s : Session} {commands : List Command} (hrun : fresh.run commands = s)
    (hblank : s.expression.isBlank = false) {c : Char} {key : Key} (hkey : Key.ofChar c = .ok key)
    (he : key ≠ .equals) :
    (∀ last, (s.type c).mainText = s.mainText ++ [last] → (s.type c).undo = s.unmarked) ∧
      (s.Extends key → ∃ last, (s.type c).mainText = s.mainText ++ [last]) := by
  have hs : s.Proper := hrun ▸ proper_fresh.run commands
  refine ⟨fun last hlonger => hs.undo_type hblank hkey he hlonger, fun hextends => ?_⟩
  obtain ⟨d, hd⟩ := hs.exists_shows fun hevaluated => (hextends.result hevaluated).2
  exact hd.exists_mainText_type hblank hkey hextends

/-- The text of a numeral comes back as it was typed, with its zeros and its point. -/
theorem undo_type_run_zeros :
    let s := fresh.run [.keys "3+007.".toList]
    s.expression.isBlank = false ∧ Key.ofChar '*' = .ok (.operator .times) ∧
      (s.type '*').mainText = s.mainText ++ ['×'] ∧ s.Extends (.operator .times) ∧
        (s.type '*').undo = s.unmarked ∧ s.unmarked.expression.pending = "007.".toList ∧
          ∃ last, (s.type '*').mainText = s.mainText ++ [last] := by
  intro s
  have hblank : s.expression.isBlank = false := by decide +kernel
  have hkey : Key.ofChar '*' = .ok (.operator .times) := rfl
  have hlonger : (s.type '*').mainText = s.mainText ++ ['×'] := by decide +kernel
  have hkind : s.expression.fragmentKind = .number := by decide +kernel
  have hevaluated : s.expression.evaluated = false := by decide +kernel
  have hzero : s.mainText ≠ emptyDisplay := by decide +kernel
  have hpending : s.unmarked.expression.pending = "007.".toList := by decide +kernel
  have hextends : s.Extends (.operator .times) := by
    refine ⟨?_, fun hresult => ?_, fun _ hmain => absurd hmain hzero⟩
    · rw [hkind]
      exact .operator
    · cases hevaluated.symm.trans hresult
  obtain ⟨hundo, hlast⟩ := undo_type_run (s := s) rfl hblank hkey (by simp)
  exact ⟨hblank, hkey, hlonger, hextends, hundo '×' hlonger, hpending, hlast hextends⟩

end Session
end PocketCalc
