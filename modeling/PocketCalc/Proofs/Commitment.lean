import PocketCalc.Proofs.Backspace

/-!
# What typing commits

While a session is typed its tokens only grow: a key leaves them alone or puts the fragment behind
them, as the number it is read as or as the operator it shows. Undo leaves them alone or takes the
last one back, whose text is the fragment again. Only equals and reset drop tokens in any other way.
A number that is begun, and a result that gives way to it, have no tokens to lose.
-/
namespace PocketCalc

/-- Whether a token is what a fragment stands for: the number it is read as, or
the operator it shows. -/
inductive Token.Reads (fragment : List Char) : Token → Prop
  | number {value : Float} : Numeral.read? fragment = some value →
    Reads fragment (number value fragment)
  | operator {op : Operator} {c : Char} : op.symbol? = some c → fragment = [c] →
      Reads fragment (operator op)

theorem Token.Fits.reads {t : Token} {i : Nat} (h : t.Fits i) : t.Reads t.text := by
  cases t with
  | number value literal => exact .number h.2.2
  | operator op =>
    obtain ⟨c, hc⟩ := Operator.exists_symbol?_of_ne h.2
    exact .operator hc (Operator.text_of_symbol? hc)

namespace Draft

theorem tokens_undo (d : Draft) : d.undo.tokens = d.tokens ∨
    ∃ t, d.tokens = d.undo.tokens ++ [t] ∧ d.undo.pending = t.text := by
  unfold undo
  split
  · next t _ hlast =>
    exact .inr ⟨t, (List.dropLast_append_getLast? t hlast).symm, rfl⟩
  · exact .inl rfl

/-- Whether the tokens of a draft are those of another one, perhaps with what
its fragment stands for. -/
def Commits (before after : Draft) : Prop :=
  after.tokens = before.tokens ∨
    ∃ t : Token, t.Reads before.pending ∧ after.tokens = before.tokens ++ [t]

namespace WellFormed
variable {d : Draft} (h : d.WellFormed)
include h

theorem commits_press (key : Key) : d.Commits (d.press key) := by
  obtain hsame | ⟨hmore, hkind⟩ := d.tokens_press key
  · exact .inl hsame
  · have hk : d.kind ≠ .empty ∧ d.kind ≠ .sign := by
      obtain ⟨op, hk⟩ | ⟨hk, -⟩ := hkind <;> simp [hk]
    obtain ⟨-, htext, hfits⟩ := h.token_spec hk.1 hk.2
    exact .inr ⟨d.token, htext ▸ hfits.reads, hmore⟩

theorem commits_step (key : Key) : d.Commits (d.step key) := by
  by_cases ht : d.text = [] ∨ d.text = ['0']
  · exact .inl (h.tokens_step_of_text ht key)
  · rw [Draft.step, if_neg ht]
    exact h.commits_press key

end WellFormed
end Draft

theorem Expression.tokens_begin {e : Expression} (h : e.tokens = []) (key : Key) :
    (e.begin key).tokens = [] := by
  unfold Expression.begin
  split
  · rfl
  · exact h

theorem Key.ne_equals_of_ofChar {c : Char} {key : Key} (hkey : Key.ofChar c = .ok key)
    (hc : c ≠ '=') : key ≠ .equals := by
  rintro rfl
  unfold Key.ofChar at hkey
  split at hkey
  · cases hkey
  split at hkey
  · cases hkey
  cases hop : Operator.ofChar c with
  | error error => simp [hop, Except.map] at hkey
  | ok op => simp [hop, Except.map] at hkey

namespace Session

/-- How the tokens of a session change. A key other than equals puts the fragment behind them or
leaves them alone, undo takes them off at the end, and neither a result that gives way nor an
expression on which a number begins has any. -/
structure CommitsInOrder (s : Session) : Prop where
  type : ∀ c ∈ keyCharacters, c ≠ '=' → (s.type c).expression.tokens = s.expression.tokens ∨
    ∃ t : Token, t.Reads s.expression.pending ∧
      (s.type c).expression.tokens = s.expression.tokens ++ [t]
  undo : s.undo.expression.tokens = s.expression.tokens ∨
    ∃ t : Token, s.expression.tokens = s.undo.expression.tokens ++ [t] ∧
      s.undo.expression.pending = t.text
  typeAll : ∀ text, '=' ∉ text → s.expression.tokens <+: (s.typeAll text).expression.tokens
  undoAll : ∀ n, (s.run (List.replicate n .undo)).expression.tokens <+: s.expression.tokens
  prepare : ∀ key, (s.expression.prepare key).tokens = s.expression.tokens
  begin : ∀ key, (s.expression.prepare key).display = emptyDisplay →
    s.expression.carriesOver key = false →
      s.expression.tokens = [] ∧ ((s.expression.prepare key).begin key).tokens = []

namespace Proper
variable {s : Session} (h : s.Proper)
include h

/-- A key other than equals commits the fragment or nothing. -/
theorem commits_type {c : Char} {key : Key} (hkey : Key.ofChar c = .ok key) (he : key ≠ .equals) :
    (s.type c).expression.tokens = s.expression.tokens ∨
      ∃ t : Token, t.Reads s.expression.pending ∧
        (s.type c).expression.tokens = s.expression.tokens ++ [t] := by
  obtain ⟨d, hd, rfl, htype⟩ | ⟨x, rfl, htype⟩ | ⟨d, hshows, -, htype⟩ := h.type_cases hkey he
  · rw [htype]
    exact hd.commits_step key
  · rw [htype]
    exact .inl (Draft.wellFormed_blank.tokens_step_of_text (.inl rfl) key)
  · rw [htype, hshows.tokens_eq, hshows.pending_eq]
    exact hshows.wellFormed.commits_press key

theorem prefix_type {c : Char} (hc : c ≠ '=') :
    s.expression.tokens <+: (s.type c).expression.tokens := by
  by_cases hmem : c ∈ keyCharacters
  · obtain ⟨key, hkey⟩ := Key.exists_ofChar hmem
    obtain hsame | ⟨t, -, hmore⟩ := h.commits_type hkey (Key.ne_equals_of_ofChar hkey hc)
    · rw [hsame]
    · exact ⟨[t], hmore.symm⟩
  · rw [type_of_notMem s hmem]

theorem prefix_typeAll {text : List Char} (htext : '=' ∉ text) :
    s.expression.tokens <+: (s.typeAll text).expression.tokens := by
  induction text generalizing s with
  | nil => exact List.prefix_refl _
  | cons c rest ih =>
    obtain ⟨hc, hrest⟩ := List.ne_and_not_mem_of_not_mem_cons htext
    exact (h.prefix_type (Ne.symm hc)).trans (ih (h.type c) hrest)

theorem tokens_undo : s.undo.expression.tokens = s.expression.tokens ∨
    ∃ t : Token, s.expression.tokens = s.undo.expression.tokens ++ [t] ∧
      s.undo.expression.pending = t.text := by
  obtain ⟨d, hd⟩ | ⟨x, rfl, hsentinel⟩ := h.shows_or_sentinel
  · rw [hd.undo_eq, hd.tokens_eq, Draft.backspace]
    split
    · exact .inl rfl
    · exact d.tokens_undo
  · have hreset := undo_of_dropped (s := ofExpression (.ofResult (Format.number x))) rfl
      (Format.number_mem_sentinels_iff.1 hsentinel)
    rw [hreset]
    exact .inl rfl

theorem prefix_run_undo (n : Nat) :
    (s.run (List.replicate n .undo)).expression.tokens <+: s.expression.tokens := by
  induction n generalizing s with
  | zero => exact List.prefix_refl _
  | succ n ih =>
    rw [run_replicate_undo_succ]
    refine (ih h.undo).trans ?_
    obtain hsame | ⟨t, hmore, -⟩ := h.tokens_undo
    · rw [hsame]
    · exact ⟨[t], hmore.symm⟩

theorem tokens_prepare (key : Key) : (s.expression.prepare key).tokens = s.expression.tokens := by
  obtain ⟨d, hd, rfl⟩ | ⟨x, rfl⟩ := h.cases
  · rfl
  · change ((Expression.ofResult (Format.number x)).prepare key).tokens = []
    have hevaluated : (Expression.ofResult (Format.number x)).evaluated = true := rfl
    rw [Expression.prepare, if_pos hevaluated]
    split <;> rfl

/-- A number begins only where there are no tokens. -/
theorem tokens_eq_nil_of_prepare {key : Key}
    (hdisplay : (s.expression.prepare key).display = emptyDisplay) : s.expression.tokens = [] := by
  obtain ⟨d, hd, rfl⟩ | ⟨x, rfl⟩ := h.cases
  · exact hd.tokens_eq_nil_of_text (shown_eq_emptyDisplay_iff.1 hdisplay)
  · rfl

end Proper

/-- In every session that a run leads to typing only adds tokens and undo only
takes the last ones. -/
theorem commitsInOrder_run (commands : List Command) : (fresh.run commands).CommitsInOrder := by
  have h := proper_fresh.run commands
  refine ⟨fun c hc he => ?_, h.tokens_undo, fun _ => h.prefix_typeAll, h.prefix_run_undo,
    h.tokens_prepare, fun key hdisplay _ => ?_⟩
  · obtain ⟨key, hkey⟩ := Key.exists_ofChar hc
    exact h.commits_type hkey (Key.ne_equals_of_ofChar hkey he)
  · have hnil := h.tokens_eq_nil_of_prepare hdisplay
    exact ⟨hnil, Expression.tokens_begin ((h.tokens_prepare key).trans hnil) key⟩

end Session
end PocketCalc
