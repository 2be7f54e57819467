import PocketCalc.Proofs.Editing

/-!
# Edits in any order

A session uses the edits of an expression in few orders only. In any order they keep the display the
text of the tokens and the fragment, except for two. A fragment that is overwritten where nothing
has been typed leaves the zero in front of it. Undo on an empty fragment takes one character off a
display of two or more but gives back the whole last token, whether that has several characters or
only one.
-/
namespace PocketCalc
open Text

/-- What an edit may bring in: a numeral or the symbol of an operator. -/
structure Piece where
  text : List Char
  legal : IsLiteral text ∨ ∃ (op : Operator) (c : Char), op.symbol? = some c ∧ text = [c]

/-- An edit of an expression. A fragment may be committed with nothing behind it. -/
inductive Edit where
  | append (piece : Piece)
  | commit (next : Option Piece) (replaceLast : Bool)
  | replace (piece : Piece)
  | pop
  | load (piece : Piece)
  | mark (evaluated : Bool)
  | undo
  | reset

def Edit.nextText (next : Option Piece) : List Char := next.elim [] Piece.text

namespace Expression

/-- The expression after an edit. A fragment that is no token stays where it is. -/
def edit (e : Expression) : Edit → Expression
  | .append piece => e.append piece.text
  | .commit next replaceLast =>
    match e.commit (Edit.nextText next) replaceLast with
    | .ok e => e
    | .error _ => e
  | .replace piece => e.replacePending piece.text
  | .pop => e.pop
  | .load piece => ofResult piece.text
  | .mark evaluated => { e with evaluated }
  | .undo => e.undo
  | .reset => blank

def editAll (e : Expression) (edits : List Edit) : Expression := edits.foldl edit e

/-- The text of the tokens and the fragment. -/
def parts (e : Expression) : List Char := tokensText e.tokens ++ e.pending

/-- The display shows the tokens and the fragment, or a zero if nothing has been typed, and has room
for the fragment that is cut off from it. -/
structure ShowsParts (e : Expression) : Prop where
  display_eq : e.isBlank = true ∨ e.display = e.parts
  length_le : byteLength e.pending ≤ byteLength e.display

/-- The edits that do not keep the display. -/
def Slips (e : Expression) : Edit → Prop
  | .replace _ => e.isBlank = true
  | .undo => e.pending = [] ∧ 2 ≤ e.display.length
  | _ => False

end Expression

namespace Piece

theorem text_ne_nil (p : Piece) : p.text ≠ [] := by
  obtain hlit | ⟨op, c, -, htext⟩ := p.legal
  · exact isLiteral_ne_nil hlit
  · simp [htext]

theorem isTyped_text (p : Piece) : ∀ c ∈ p.text, isTyped c := by
  intro c hc
  obtain ⟨n, hn⟩ | ⟨op, symbol, hsymbol, htext⟩ := p.legal
  · obtain hdigit | rfl | ⟨rfl, -⟩ := Literal.mem_text (hn ▸ hc)
    · exact isTyped_iff.2 (.inl hdigit)
    · decide
    · decide
  · obtain rfl : c = symbol := by simpa [htext] using hc
    exact isTyped_iff.2 (.inr (.inr ⟨op, hsymbol⟩))

theorem isTyped_nextText (next : Option Piece) : ∀ c ∈ Edit.nextText next, isTyped c := by
  cases next with
  | none => exact nofun
  | some p => exact p.isTyped_text

end Piece

namespace Expression

/-- A fragment that becomes a token is the text of the token. -/
theorem text_of_tokenOf {fragment : List Char} {t : Token} (h : tokenOf fragment = .ok t)
    (htyped : ∀ c ∈ fragment, isTyped c) : t.text = fragment ∧ fragment ≠ [] := by
  unfold tokenOf at h
  split at h
  · cases h
  · next hne _ =>
    obtain rfl := Except.ok.inj h
    exact ⟨rfl, fun hnil => by simp_all⟩
  · next c _ =>
    refine ⟨?_, List.cons_ne_nil _ _⟩
    obtain hdigit | rfl | ⟨op, hop⟩ := isTyped_iff.1 (htyped c (by simp))
    · simp [Operator.ofChar, ofSymbol?_of_isDigit hdigit, Except.map] at h
    · cases h
    · simp only [Operator.ofChar, Operator.ofSymbol?_of_symbol? hop, Except.map,
        Except.ok.injEq] at h
      rw [← h]
      exact Operator.text_of_symbol? hop
  · cases h

/-- A display that shows the tokens and the fragment is cut where the fragment starts. -/
theorem splitAtByte?_of_display {e : Expression} (h : e.display = e.parts) :
    splitAtByte? (byteLength e.display - byteLength e.pending) e.display =
      some (tokensText e.tokens, e.pending) := by
  have hlength : byteLength e.parts - byteLength e.pending = byteLength (tokensText e.tokens) := by
    simp [parts]
  rw [h, hlength, parts, splitAtByte?_append]

/-- Taking the last token away takes its text out of such a display. -/
theorem pop_of_display {e : Expression} (h : e.display = e.parts) {front : List Token} {t : Token}
    (htokens : e.tokens = front ++ [t]) :
    e.pop = { e with tokens := front, display := shown (tokensText front ++ e.pending) } := by
  have hsplit := splitAtByte?_of_display h
  simp only [htokens, tokensText_append, tokensText_singleton] at hsplit
  have hwithout : e.displayWithout t = tokensText front ++ e.pending := by
    simp only [displayWithout, hsplit, dropSuffix?_append]
  simp [Expression.pop, pop?, htokens, hwithout]

/-- What edits keep: the display, tokens that have a text, and characters that can be typed. -/
structure Composed (e : Expression) : Prop where
  display_eq : e.display = shown e.parts
  typed : ∀ c ∈ e.parts, isTyped c
  text_ne_nil : ∀ t ∈ e.tokens, t.text ≠ []

theorem composed_blank : blank.Composed := ⟨rfl, nofun, nofun⟩

namespace Composed
variable {e : Expression} (h : e.Composed)
include h

theorem parts_eq_nil_iff : e.parts = [] ↔ e.tokens = [] ∧ e.pending = [] := by
  constructor
  · intro hparts
    obtain ⟨htokens, hpending⟩ := List.append_eq_nil_iff.1 hparts
    refine ⟨List.eq_nil_iff_forall_not_mem.2 fun t ht => h.text_ne_nil t ht ?_, hpending⟩
    exact List.flatMap_eq_nil_iff.1 htokens t ht
  · rintro ⟨htokens, hpending⟩
    simp [parts, htokens, hpending]

theorem isBlank_iff : e.isBlank = true ↔ e.parts = [] := by
  rw [h.parts_eq_nil_iff]
  constructor
  · intro hblank
    simp only [isBlank, Bool.and_eq_true, decide_eq_true_eq] at hblank
    exact hblank.1
  · rintro ⟨htokens, hpending⟩
    have hdisplay := h.display_eq
    simp only [parts, htokens, hpending, tokensText_nil, List.append_nil, shown_nil] at hdisplay
    simp [isBlank, htokens, hpending, hdisplay]

theorem display_of_ne_nil (hne : e.parts ≠ []) : e.display = e.parts := by
  rw [h.display_eq, shown_of_ne_nil hne]

theorem showsParts : e.ShowsParts := by
  by_cases hnil : e.parts = []
  · refine ⟨.inl (h.isBlank_iff.2 hnil), ?_⟩
    simp [(h.parts_eq_nil_iff.1 hnil).2, byteLength]
  · have hdisplay := h.display_of_ne_nil hnil
    refine ⟨.inr hdisplay, ?_⟩
    rw [hdisplay, parts, byteLength_append]
    omega

theorem append (p : Piece) : (e.append p.text).Composed := by
  have hparts : (e.append p.text).parts = e.parts ++ p.text := by
    simp [parts, Expression.append, List.append_assoc]
  have hne : e.parts ++ p.text ≠ [] := by simp [p.text_ne_nil]
  refine ⟨?_, ?_, h.text_ne_nil⟩
  · rw [hparts, shown_of_ne_nil hne]
    by_cases hnil : e.parts = []
    · simp [Expression.append, h.isBlank_iff.2 hnil, hnil]
    · have hblank : e.isBlank = false := Bool.eq_false_iff.2 (mt h.isBlank_iff.1 hnil)
      simp [Expression.append, hblank, h.display_of_ne_nil hnil]
  · rw [hparts]
    simpa [or_imp, forall_and] using ⟨h.typed, p.isTyped_text⟩

theorem replacePending (p : Piece) (hblank : e.isBlank ≠ true) :
    (e.replacePending p.text).Composed := by
  have hne : e.parts ≠ [] := mt h.isBlank_iff.2 hblank
  have hcommitted : e.committedDisplay = tokensText e.tokens := by
    simp only [committedDisplay, splitAtByte?_of_display (h.display_of_ne_nil hne)]
  refine ⟨?_, ?_, h.text_ne_nil⟩
  · simp only [Expression.replacePending, hcommitted, parts]
  · intro c hc
    obtain hc | hc := List.mem_append.1 hc
    · exact h.typed c (List.mem_append_left _ hc)
    · exact p.isTyped_text c hc

theorem pop_append {front : List Token} {t : Token} (htokens : e.tokens = front ++ [t]) :
    e.pop = { e with tokens := front, display := shown (tokensText front ++ e.pending) } := by
  have htext := h.text_ne_nil t (by simp [htokens])
  have hne : e.parts ≠ [] := by simp [parts, htokens, htext]
  exact pop_of_display (h.display_of_ne_nil hne) htokens

theorem pop : e.pop.Composed := by
  obtain hnil | ⟨front, t, htokens⟩ := List.eq_nil_or_concat' e.tokens
  · have hsame : e.pop = e := by simp [Expression.pop, pop?, hnil]
    rwa [hsame]
  · rw [h.pop_append htokens]
    refine ⟨rfl, fun c hc => h.typed c ?_, fun u hu => h.text_ne_nil u (by simp [htokens, hu])⟩
    simp only [parts, htokens, tokensText_append, List.append_assoc, List.mem_append] at hc ⊢
    exact hc.imp_right .inr

theorem pending_pop : e.pop.pending = e.pending := by
  obtain hnil | ⟨front, t, htokens⟩ := List.eq_nil_or_concat' e.tokens
  · simp [Expression.pop, pop?, hnil]
  · rw [h.pop_append htokens]

theorem push {t : Token} (ht : tokenOf e.pending = .ok t) (next : Option Piece) :
    Composed { e with
      tokens := e.tokens ++ [t]
      pending := Edit.nextText next
      display := e.display ++ Edit.nextText next } := by
  have hpending : ∀ c ∈ e.pending, isTyped c := fun c hc => h.typed c (List.mem_append_right _ hc)
  obtain ⟨htext, hne⟩ := text_of_tokenOf ht hpending
  have hparts : e.parts ≠ [] := by simp [parts, hne]
  have hlonger :
      tokensText (e.tokens ++ [t]) ++ Edit.nextText next = e.parts ++ Edit.nextText next := by
    simp [parts, htext]
  refine ⟨?_, ?_, fun u hu => ?_⟩
  · rw [parts, hlonger, shown_of_ne_nil (by simp [hparts]), h.display_of_ne_nil hparts]
  · rw [parts, hlonger]
    simpa [or_imp, forall_and] using ⟨h.typed, Piece.isTyped_nextText next⟩
  · obtain hu | hu := List.mem_append.1 hu
    · exact h.text_ne_nil u hu
    · rw [List.mem_singleton.1 hu, htext]
      exact hne

theorem commit {next : Option Piece} {replaceLast : Bool} {after : Expression}
    (hcommit : e.commit (Edit.nextText next) replaceLast = .ok after) : after.Composed := by
  unfold Expression.commit at hcommit
  split at hcommit
  · cases hcommit
  · next t ht =>
    obtain rfl := Except.ok.inj hcommit
    cases replaceLast with
    | false => exact h.push ht next
    | true => exact h.pop.push (by rw [h.pending_pop, ht]) next

/-- The last character of the display is what undo takes back. -/
theorem splitLastCluster?_display {front : List Char} {c : Char} (hparts : e.parts = front ++ [c]) :
    splitLastCluster? e.display = some (front, [c]) := by
  have hdisplay := h.display_of_ne_nil (by simp [hparts])
  have htyped := h.typed
  rw [hparts] at hdisplay htyped
  rw [hdisplay]
  exact splitLastCluster?_append fun d hd => isPlain_of_isTyped (htyped d hd)

theorem display_ne_emptyDisplay {front : List Char} {c : Char} (hparts : e.parts = front ++ [c])
    (hfront : front ≠ []) : e.display ≠ emptyDisplay := by
  have hlength := List.length_pos_iff.2 hfront
  rw [h.display_of_ne_nil (by simp [hparts]), hparts]
  intro hzero
  have hshort := congrArg List.length hzero
  simp only [List.length_append, emptyDisplay, List.length_singleton] at hshort
  omega

/-- Undo on the last character of a longer fragment. -/
theorem undo_of_pending {rest : List Char} {c : Char} (hpending : e.pending = rest ++ [c])
    (hrest : rest ≠ []) :
    e.undo = { e with pending := rest, display := tokensText e.tokens ++ rest } := by
  have hparts : e.parts = tokensText e.tokens ++ rest ++ [c] := by simp [parts, hpending]
  have hfront : tokensText e.tokens ++ rest ≠ [] := by simp [hrest]
  obtain ⟨d, ds, hcons⟩ := List.exists_cons_of_ne_nil hfront
  rw [Expression.undo, if_neg (h.display_ne_emptyDisplay hparts hfront),
    h.splitLastCluster?_display hparts, hcons]
  simp [hpending, hrest]

/-- Undo where nothing is left of the fragment, or nothing was there: the last
token is the fragment. -/
theorem undo_of_append {tokens : List Token} {t : Token} {front : List Char} {c : Char}
    (hparts : e.parts = front ++ [c]) (hfront : front ≠ []) (htokens : e.tokens = tokens ++ [t])
    (hpending : e.pending = [] ∨ e.pending = [c]) :
    e.undo = { e with tokens, pending := t.text, display := front } := by
  have hrest : (dropSuffix? [c] e.pending).getD [] = [] := by
    obtain hnil | hsingle := hpending
    · simp [hnil, dropSuffix?]
    · simp [hsingle]
  obtain ⟨d, ds, rfl⟩ := List.exists_cons_of_ne_nil hfront
  rw [Expression.undo, if_neg (h.display_ne_emptyDisplay hparts hfront),
    h.splitLastCluster?_display hparts]
  simp [hrest, htokens]

theorem undo_of_singleton {c : Char} (hparts : e.parts = [c]) (hzero : e.display ≠ emptyDisplay) :
    e.undo = blank := by
  have hcut : splitLastCluster? e.display = some ([], [c]) := h.splitLastCluster?_display hparts
  rw [Expression.undo, if_neg hzero, hcut]

theorem undo (hslip : ¬(e.pending = [] ∧ 2 ≤ e.display.length)) : e.undo.Composed := by
  by_cases hzero : e.display = emptyDisplay
  · rwa [Expression.undo, if_pos hzero]
  have hne : e.parts ≠ [] := fun hnil => hzero (by rw [h.display_eq, hnil, shown_nil])
  obtain ⟨front, c, hparts⟩ := (List.eq_nil_or_concat' e.parts).resolve_left hne
  by_cases hfront : front = []
  · subst hfront
    rw [h.undo_of_singleton hparts hzero]
    exact composed_blank
  have htyped : ∀ d ∈ front, isTyped d := fun d hd => h.typed d (by simp [hparts, hd])
  obtain hnil | ⟨rest, d, hpending⟩ := List.eq_nil_or_concat' e.pending
  · -- the display is too long for an empty fragment
    refine absurd ⟨hnil, ?_⟩ hslip
    have hlength := List.length_pos_iff.2 hfront
    rw [h.display_of_ne_nil hne, hparts, List.length_append, List.length_singleton]
    omega
  · have hsplit : tokensText e.tokens ++ rest ++ [d] = front ++ [c] := by
      rw [← hparts, parts, hpending, List.append_assoc]
    obtain ⟨rfl, hlast⟩ := List.append_inj' hsplit rfl
    obtain rfl : d = c := by simpa using hlast
    by_cases hrest : rest = []
    · subst hrest
      have htokens : e.tokens ≠ [] := by
        rintro htokens
        simp [htokens] at hfront
      obtain ⟨tokens, t, htokens⟩ := (List.eq_nil_or_concat' e.tokens).resolve_left htokens
      rw [h.undo_of_append hparts hfront htokens (.inr hpending)]
      have htext : tokensText e.tokens ++ [] = tokensText tokens ++ t.text := by simp [htokens]
      refine ⟨?_, ?_, fun u hu => h.text_ne_nil u (by simp [htokens, hu])⟩
      · rw [parts, ← htext, shown_of_ne_nil hfront]
      · rw [parts, ← htext]
        exact htyped
    · rw [h.undo_of_pending hpending hrest]
      exact ⟨(shown_of_ne_nil hfront).symm, htyped, h.text_ne_nil⟩

/-- Every edit but those that slip keeps all this. -/
theorem edit {change : Edit} (hslip : ¬e.Slips change) : (e.edit change).Composed := by
  cases change with
  | append p => exact h.append p
  | commit next replaceLast =>
    cases hcommit : e.commit (Edit.nextText next) replaceLast with
    | ok after =>
      simp only [Expression.edit, hcommit]
      exact h.commit hcommit
    | error _ =>
      simp only [Expression.edit, hcommit]
      exact h
  | replace p => exact h.replacePending p hslip
  | pop => exact h.pop
  | load p =>
    have hshown := shown_of_ne_nil p.text_ne_nil
    exact ⟨by simp [Expression.edit, ofResult, parts, hshown], p.isTyped_text, nofun⟩
  | mark evaluated => exact ⟨h.display_eq, h.typed, h.text_ne_nil⟩
  | undo => exact h.undo hslip
  | reset => exact composed_blank

/-- What overwrites the fragment of an empty expression has a zero in front. -/
theorem not_showsParts_replace (p : Piece) (hblank : e.isBlank = true) :
    ¬(e.edit (.replace p)).ShowsParts := by
  intro hafter
  have hnil := h.isBlank_iff.1 hblank
  obtain ⟨htokens, hpending⟩ := h.parts_eq_nil_iff.1 hnil
  have hdisplay : e.display = emptyDisplay := by rw [h.display_eq, hnil, shown_nil]
  have hsplit : splitAtByte? (byteLength emptyDisplay - byteLength []) emptyDisplay =
      some (emptyDisplay, []) := by decide
  have hcommitted : e.committedDisplay = emptyDisplay := by
    simp only [committedDisplay, hdisplay, hpending, hsplit]
  have hreplaced :
      e.edit (.replace p) = { e with display := emptyDisplay ++ p.text, pending := p.text } := by
    simp [Expression.edit, Expression.replacePending, hcommitted, shown, emptyDisplay]
  rw [hreplaced] at hafter
  obtain hblank | hparts := hafter.display_eq
  · simp [isBlank, p.text_ne_nil] at hblank
  · have hlength := congrArg List.length hparts
    simp [parts, htokens, emptyDisplay] at hlength

/-- Undo behind a token gives back more than it leaves on the display. -/
theorem not_showsParts_undo (hpending : e.pending = []) (hlong : 2 ≤ e.display.length) :
    ¬(e.edit .undo).ShowsParts := by
  intro hafter
  have hne : e.parts ≠ [] := by
    intro hnil
    rw [h.display_eq, hnil, shown_nil, emptyDisplay] at hlong
    simp at hlong
  obtain ⟨front, c, hparts⟩ := (List.eq_nil_or_concat' e.parts).resolve_left hne
  have hfront : front ≠ [] := by
    rintro rfl
    rw [h.display_of_ne_nil hne, hparts] at hlong
    simp at hlong
  have htokens : e.tokens ≠ [] := fun hnil => hne (h.parts_eq_nil_iff.2 ⟨hnil, hpending⟩)
  obtain ⟨tokens, t, htokens⟩ := (List.eq_nil_or_concat' e.tokens).resolve_left htokens
  have htext := h.text_ne_nil t (by simp [htokens])
  have hundo : e.edit .undo = { e with tokens, pending := t.text, display := front } :=
    h.undo_of_append hparts hfront htokens (.inl hpending)
  rw [hundo] at hafter
  obtain hblank | hshown := hafter.display_eq
  · simp [isBlank, htext] at hblank
  · have hall : tokensText tokens ++ t.text = front ++ [c] := by
      rw [← hparts, parts, htokens, hpending]
      simp
    have hlength := congrArg List.length (hshown.trans hall)
    simp at hlength

/-- The display shows the parts after every edit but those that slip. -/
theorem showsParts_edit_iff (change : Edit) : (e.edit change).ShowsParts ↔ ¬e.Slips change := by
  constructor
  · intro hafter hslip
    cases change with
    | replace p => exact h.not_showsParts_replace p hslip hafter
    | undo => exact h.not_showsParts_undo hslip.1 hslip.2 hafter
    | append _ | commit _ _ | pop | load _ | mark _ | reset => exact hslip
  · intro hslip
    exact (h.edit hslip).showsParts

end Composed

@[simp] theorem editAll_append_singleton (e : Expression) (edits : List Edit) (change : Edit) :
    e.editAll (edits ++ [change]) = (e.editAll edits).edit change := by simp [editAll]

theorem composed_editAll {edits : List Edit} (h : ∀ front change, front ++ [change] <+: edits →
      (blank.editAll front).Composed → ¬(blank.editAll front).Slips change) :
    ∀ front, front <+: edits → (blank.editAll front).Composed := by
  intro front hfront
  induction front using List.reverseRecOn with
  | nil => exact composed_blank
  | append_singleton front change ih =>
    have hbefore := ih ((List.prefix_append front [change]).trans hfront)
    rw [editAll_append_singleton]
    exact hbefore.edit (h front change hfront hbefore)

/-- The display shows the parts after each of several edits exactly if none of the edits slips. -/
theorem showsParts_editAll_iff (edits : List Edit) :
    (∀ front, front <+: edits → (blank.editAll front).ShowsParts) ↔
      ∀ front change, front ++ [change] <+: edits → ¬(blank.editAll front).Slips change := by
  constructor
  · intro hshows
    have hslip : ∀ front change, front ++ [change] <+: edits →
        (blank.editAll front).Composed → ¬(blank.editAll front).Slips change := by
      intro front change hfront hbefore
      have hafter := hshows _ hfront
      rw [editAll_append_singleton] at hafter
      exact (hbefore.showsParts_edit_iff change).1 hafter
    intro front change hfront
    have hbefore := (List.prefix_append front [change]).trans hfront
    exact hslip front change hfront (composed_editAll hslip front hbefore)
  · intro hslip front hfront
    exact (composed_editAll (fun front change hfront _ => hslip front change hfront)
      front hfront).showsParts

def digitPiece (n : Nat) : Piece where
  text := Nat.toDigits 10 n
  legal := .inl ⟨.ofNat false n none nofun, by simp [Literal.text, Literal.ofNat, signed, pointed]⟩

/-- Five overwritten on nothing is shown behind a zero. Undo behind twelve leaves a one on the
display, with twelve to be typed on. -/
theorem slipping_edits :
    let replaced := blank.editAll [.replace (digitPiece 5)]
    let undone := blank.editAll [.append (digitPiece 12), .commit none false, .undo]
    (replaced.display = "05".toList ∧ replaced.parts = "5".toList ∧ ¬replaced.ShowsParts) ∧
      undone.display = "1".toList ∧ undone.parts = "12".toList ∧ ¬undone.ShowsParts ∧
        byteLength undone.display < byteLength undone.pending := by
  intro replaced undone
  have hreplaced : ¬(replaced.isBlank = true ∨ replaced.display = replaced.parts) := by
    decide +kernel
  have hundone : byteLength undone.display < byteLength undone.pending := by decide +kernel
  refine ⟨⟨?_, ?_, fun h => hreplaced h.display_eq⟩, ?_, ?_, fun h => ?_, hundone⟩
  · decide +kernel
  · decide +kernel
  · decide +kernel
  · decide +kernel
  · exact absurd h.length_le (Nat.not_le.2 hundone)

end Expression
end PocketCalc
