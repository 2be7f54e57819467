import PocketCalc.Proofs.Results

/-!
# Runs of a session

A session can be told to take a character or several of them, to take the last one back and to start
again. Whatever it is told, it shows a draft or a result, and its subtotal is the one of its tokens.
No key that there is fails.
-/
namespace PocketCalc

inductive Command where
  | key (c : Char)
  | keys (text : List Char)
  | undo
  | reset
deriving DecidableEq

namespace Session

def perform (s : Session) : Command → Session
  | .key c => s.type c
  | .keys text => s.typeAll text
  | .undo => s.undo
  | .reset => s.reset

def run (s : Session) (commands : List Command) : Session := commands.foldl perform s

/-- One character, where a refusal counts. -/
def enter (s : Session) (c : Char) : Except CalcError Session :=
  match s.ingest c with
  | (s, none) => .ok s
  | (_, some error) => .error error

/-- Several characters, up to the first that is refused. -/
def enterAll (s : Session) (keys : List Char) : Except CalcError Session := keys.foldlM enter s

theorem type_of_step {e next : Expression} {c : Char} {key : Key} (hkey : Key.ofChar c = .ok key)
    (hstep : e.step key = .ok next) : (ofExpression e).type c = ofExpression next := by
  simp only [type, ingest, hkey, ofExpression, hstep]

theorem enter_of_step {e next : Expression} {c : Char} {key : Key} (hkey : Key.ofChar c = .ok key)
    (hstep : e.step key = .ok next) : (ofExpression e).enter c = .ok (ofExpression next) := by
  have hingest : (ofExpression e).ingest c = (ofExpression next, none) := by
    simp only [ingest, hkey, ofExpression, hstep]
  rw [enter, hingest]

@[simp] theorem enterAll_nil (s : Session) : s.enterAll [] = .ok s := rfl

theorem enterAll_cons {s next : Session} {c : Char} (h : s.enter c = .ok next) (rest : List Char) :
    s.enterAll (c :: rest) = next.enterAll rest := by
  rw [enterAll, List.foldlM_cons, h]
  rfl

theorem enterAll_append {s next : Session} {front : List Char} (h : s.enterAll front = .ok next)
    (back : List Char) : s.enterAll (front ++ back) = next.enterAll back := by
  rw [enterAll, List.foldlM_append]
  rw [enterAll] at h
  rw [h]
  rfl

/-- A session that commands lead to. -/
structure Proper (s : Session) : Prop where
  expression : s.expression.Proper
  subtotal : s.subtotal = s.expression.subtotal

theorem proper_ofExpression {e : Expression} (h : e.Proper) : (ofExpression e).Proper := ⟨h, rfl⟩

theorem Proper.cases {s : Session} (h : s.Proper) :
    (∃ d : Draft, d.WellFormed ∧ s = ofExpression d.expression) ∨
      ∃ x, s = ofExpression (.ofResult (Format.number x)) := by
  obtain ⟨e, subtotal⟩ := s
  obtain rfl : subtotal = e.subtotal := h.subtotal
  obtain ⟨hd⟩ | ⟨x⟩ := h.expression
  · exact .inl ⟨_, hd, rfl⟩
  · exact .inr ⟨x, rfl⟩

theorem proper_blank : (ofExpression .blank).Proper :=
  proper_ofExpression (.draft Draft.wellFormed_blank)

theorem proper_fresh : fresh.Proper := proper_blank

/-- A key that there is never fails. -/
theorem Proper.ingest {s : Session} (h : s.Proper) {c : Char} {key : Key}
    (hkey : Key.ofChar c = .ok key) : ∃ e, s.expression.step key = .ok e ∧ e.Proper ∧
      s.ingest c = (ofExpression e, none) := by
  obtain ⟨e, hstep, hproper⟩ := h.expression.step (Key.legal_of_ofChar hkey)
  exact ⟨e, hstep, hproper, by simp only [Session.ingest, hkey, hstep]⟩

theorem Proper.type {s : Session} (h : s.Proper) (c : Char) : (s.type c).Proper := by
  cases hkey : Key.ofChar c with
  | error error =>
    have hsame : s.type c = s := by simp only [Session.type, Session.ingest, hkey]
    rwa [hsame]
  | ok key =>
    obtain ⟨e, -, hproper, hingest⟩ := h.ingest hkey
    rw [Session.type, hingest]
    exact proper_ofExpression hproper

theorem Proper.typeAll {s : Session} (h : s.Proper) (keys : List Char) :
    (s.typeAll keys).Proper := by
  induction keys generalizing s with
  | nil => exact h
  | cons c rest ih => exact ih (h.type c)

theorem proper_undo_draft {d : Draft} (h : d.WellFormed) (subtotal : List Char) :
    (undo ⟨d.expression, subtotal⟩).Proper := by
  obtain ⟨before, hbefore, hundo⟩ := Expression.exists_undo h
  have heq : undo ⟨d.expression, subtotal⟩ = ofExpression before.expression := by
    simp only [undo, Draft.evaluated_expression, Bool.false_and, Bool.false_eq_true,
      if_false, hundo]
    rfl
  rw [heq]
  exact proper_ofExpression (.draft hbefore)

/-- Undo edits a finite result as a numeral and drops any other result. -/
theorem proper_undo_result (x : Float) (subtotal : List Char) :
    (undo ⟨.ofResult (Format.number x), subtotal⟩).Proper := by
  by_cases hfinite : (Expression.ofResult (Format.number x)).isFinite
  · have hshown : IsShown (Format.number x) := isShown_of_isFinite hfinite
    obtain ⟨before, hbefore, hundo⟩ :=
      Expression.exists_undo (Expression.wellFormed_first_of_isShown hshown)
    rw [Expression.expression_first_of_isShown hshown] at hundo
    have hresult := Expression.undo_evaluated ⟨[], Format.number x, Format.number x, false⟩ true
    have heq : undo ⟨.ofResult (Format.number x), subtotal⟩ = ofExpression before.expression := by
      simp only [undo, hfinite, Bool.not_true, Bool.and_false, Bool.false_eq_true, if_false]
      exact congrArg ofExpression (hresult.trans (by rw [hundo]; rfl))
    rw [heq]
    exact proper_ofExpression (.draft hbefore)
  · have hevaluated : (Expression.ofResult (Format.number x)).evaluated = true := rfl
    have heq : undo ⟨.ofResult (Format.number x), subtotal⟩ = ofExpression .blank := by
      simp [undo, hfinite, hevaluated]
    rw [heq]
    exact proper_blank

theorem Proper.undo {s : Session} (h : s.Proper) : s.undo.Proper := by
  obtain ⟨e, subtotal⟩ := s
  obtain ⟨hd⟩ | ⟨x⟩ := h.expression
  · exact proper_undo_draft hd subtotal
  · exact proper_undo_result x subtotal

theorem Proper.perform {s : Session} (h : s.Proper) (command : Command) :
    (s.perform command).Proper := by
  cases command with
  | key c => exact h.type c
  | keys text => exact h.typeAll text
  | undo => exact h.undo
  | reset => exact proper_blank

theorem Proper.run {s : Session} (h : s.Proper) (commands : List Command) :
    (s.run commands).Proper := by
  induction commands generalizing s with
  | nil => exact h
  | cons command rest ih => exact ih (h.perform command)

end Session
end PocketCalc
