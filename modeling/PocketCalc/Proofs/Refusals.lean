import PocketCalc.Proofs.Runs

/-!
# Refused characters

A session refuses a character exactly if it is no key, and then nothing changes. No key fails: a
fragment that has to become a token is one, and tokens that have to be evaluated have a value. So a
session never finds a fault in itself, and leaving out the characters it refuses does not change a
run.
-/
namespace PocketCalc

def keyCharacters : List Char :=
  digitCharacters ++ ['.', '=', '+', '-', '×', '*', 'x', '÷', '/', '%']

theorem mem_keyCharacters_of_ofSymbol? {op : Operator} {c : Char}
    (h : Operator.ofSymbol? c = some op) : c ∈ keyCharacters := by
  unfold Operator.ofSymbol? at h
  split at h <;> simp only [Option.some.injEq, reduceCtorEq] at h <;> decide

theorem Key.ofChar_of_notMem {c : Char} (h : c ∉ keyCharacters) :
    ofChar c = .error (.unknownOperator c) := by
  have hdigit : ¬c.isDigit := fun hd => h (List.mem_append_left _ (mem_digitCharacters hd))
  have hpoint : c ≠ '.' := by
    rintro rfl
    exact h (by decide)
  have hequals : c ≠ '=' := by
    rintro rfl
    exact h (by decide)
  have hsymbol : Operator.ofSymbol? c = none :=
    Option.eq_none_iff_forall_not_mem.2 fun _ hop => h (mem_keyCharacters_of_ofSymbol? hop)
  rw [ofChar, if_neg hdigit, if_neg hpoint, if_neg hequals, Operator.ofChar, hsymbol]
  rfl

theorem Key.exists_ofChar {c : Char} (h : c ∈ keyCharacters) : ∃ key, ofChar c = .ok key := by
  have hkeys : ∀ c ∈ keyCharacters, (ofChar c).toOption.isSome :=
    List.all_iff_forall_prop.1 (by decide)
  have hc := hkeys c h
  cases hkey : ofChar c with
  | ok key => exact ⟨key, rfl⟩
  | error error => simp [hkey, Except.toOption] at hc

namespace Expression

/-- The faults that show when the subtotal is brought up to date. -/
def subtotalFaults (e : Expression) : List CalcError :=
  if e.tokens = [] then []
  else
    match Evaluation.current e.tokens with
    | .ok _ => []
    | .error error => [error]

/-- The faults that show when a key is pressed. -/
def keyFaults (e : Expression) (key : Key) : List CalcError :=
  match e.step key with
  | .ok next => next.subtotalFaults
  | .error error => error :: (e.prepare key).subtotalFaults

end Expression

namespace Session

/-- The faults that a session finds in itself when it takes a character. -/
def charFaults (s : Session) (c : Char) : List CalcError :=
  match Key.ofChar c with
  | .ok key => s.expression.keyFaults key
  | .error _ => []

def textFaults (s : Session) : List Char → List CalcError
  | [] => []
  | c :: rest => s.charFaults c ++ (s.type c).textFaults rest

def faults (s : Session) : Command → List CalcError
  | .key c => s.charFaults c
  | .keys text => s.textFaults text
  | .undo => s.undo.expression.subtotalFaults
  | .reset => s.reset.expression.subtotalFaults

end Session

namespace Expression

/-- The tokens of a proper expression have a value. -/
theorem Proper.subtotalFaults_eq_nil {e : Expression} (h : e.Proper) : e.subtotalFaults = [] := by
  unfold subtotalFaults
  obtain ⟨hd⟩ | ⟨x⟩ := h
  · obtain ⟨total, htotal⟩ := Evaluation.exists_final hd.alternating
    rw [Draft.tokens_expression, Evaluation.current_eq_final hd.alternating, htotal]
    exact ite_self _
  · rfl

theorem Proper.keyFaults_eq_nil {e : Expression} (h : e.Proper) {key : Key} (hkey : key.Legal) :
    e.keyFaults key = [] := by
  obtain ⟨next, hstep, hnext⟩ := h.step hkey
  simp only [keyFaults, hstep, hnext.subtotalFaults_eq_nil]

/-- A key acts on a draft, also after a result. -/
theorem Proper.exists_prepare {e : Expression} (h : e.Proper) (key : Key) :
    ∃ d : Draft, d.WellFormed ∧ e.prepare key = d.expression := by
  obtain ⟨hd⟩ | ⟨x⟩ := h
  · exact ⟨_, hd, rfl⟩
  · have hevaluated : (ofResult (Format.number x)).evaluated = true := rfl
    rw [prepare, if_pos hevaluated]
    split
    · next hcarries =>
      have hshown := isShown_of_isFinite (carriesOver_ofResult.1 hcarries).2
      exact ⟨_, wellFormed_first_of_isShown hshown, (expression_first_of_isShown hshown).symm⟩
    · exact ⟨_, Draft.wellFormed_blank, rfl⟩

end Expression

namespace Draft.WellFormed
variable {d : Draft} (h : d.WellFormed)
include h

theorem exists_commit (hk : d.kind ≠ .empty) (hs : d.kind ≠ .sign) (next : List Char) :
    ∃ e, d.expression.commit next false = .ok e := by
  have ht := (h.token_spec hk hs).1
  exact ⟨_, by rw [Expression.commit, pending_expression, ht]⟩

/-- No key fails on a draft, not even on an empty one. -/
theorem exists_press {key : Key} (hkey : key.Legal) : ∃ e, d.expression.press key = .ok e := by
  by_cases hequals : key = .equals
  · subst hequals
    obtain ⟨e, he, -⟩ := Expression.proper_pressEquals h
    exact ⟨e, he⟩
  · by_cases hk : d.kind = .empty
    · obtain rfl := h.eq_blank_of_kind hk
      cases hkey with
      | digit _ => exact ⟨_, rfl⟩
      | point => exact ⟨_, rfl⟩
      | operator hc => refine Operator.symbol_cases ?_ ?_ ?_ ?_ ?_ hc <;> exact ⟨_, rfl⟩
      | equals => exact absurd rfl hequals
    · exact ⟨_, h.press_expression hk hkey hequals⟩

end Draft.WellFormed

/-- A command without the characters that are refused, if anything is left of it. -/
def Command.accepted? : Command → Option Command
  | .key c => if c ∈ keyCharacters then some (.key c) else none
  | .keys text => some (.keys (text.filter (· ∈ keyCharacters)))
  | .undo => some .undo
  | .reset => some .reset

namespace Session

/-- What a session does with characters, and that it does so without a fault. A refused character
changes nothing, a fragment that is a number or an operator can be committed whatever key is
pressed, and every key succeeds. -/
structure Faultless (s : Session) : Prop where
  refused_iff : ∀ c, (s.ingest c).2.isSome ↔ c ∉ keyCharacters
  refused : ∀ c ∉ keyCharacters, s.ingest c = (s, some (.unknownOperator c))
  commit : ∀ (key : Key) (next : List Char),
    (s.expression.prepare key).fragmentKind ≠ .empty →
    (s.expression.prepare key).fragmentKind ≠ .sign →
    ∃ e, (s.expression.prepare key).commit next false = .ok e
  press : ∀ c ∈ keyCharacters, ∃ key e, Key.ofChar c = .ok key ∧
    (s.expression.prepare key).press key = .ok e
  faults_eq_nil : ∀ command, s.faults command = []

theorem ingest_of_notMem (s : Session) {c : Char} (h : c ∉ keyCharacters) :
    s.ingest c = (s, some (.unknownOperator c)) := by
  simp only [ingest, Key.ofChar_of_notMem h]

namespace Proper
variable {s : Session} (h : s.Proper)
include h

theorem charFaults_eq_nil (c : Char) : s.charFaults c = [] := by
  unfold charFaults
  cases hkey : Key.ofChar c with
  | ok key => exact h.expression.keyFaults_eq_nil (Key.legal_of_ofChar hkey)
  | error _ => rfl

theorem textFaults_eq_nil (text : List Char) : s.textFaults text = [] := by
  induction text generalizing s with
  | nil => rfl
  | cons c rest ih => rw [textFaults, h.charFaults_eq_nil, ih (h.type c), List.append_nil]

theorem faultless : s.Faultless where
  refused_iff := fun c => by
    by_cases hc : c ∈ keyCharacters
    · obtain ⟨key, hkey⟩ := Key.exists_ofChar hc
      obtain ⟨e, -, -, hingest⟩ := h.ingest hkey
      simp [hingest, hc]
    · simp [ingest_of_notMem s hc, hc]
  refused := fun c hc => ingest_of_notMem s hc
  commit := fun key next hk hs => by
    obtain ⟨d, hd, hprepare⟩ := h.expression.exists_prepare key
    rw [hprepare] at hk hs ⊢
    exact hd.exists_commit hk hs next
  press := fun c hc => by
    obtain ⟨key, hkey⟩ := Key.exists_ofChar hc
    obtain ⟨d, hd, hprepare⟩ := h.expression.exists_prepare key
    obtain ⟨e, he⟩ := hd.exists_press (Key.legal_of_ofChar hkey)
    exact ⟨key, e, hkey, by rw [hprepare, he]⟩
  faults_eq_nil := fun command => by
    cases command with
    | key c => exact h.charFaults_eq_nil c
    | keys text => exact h.textFaults_eq_nil text
    | undo => exact h.undo.expression.subtotalFaults_eq_nil
    | reset => exact proper_blank.expression.subtotalFaults_eq_nil

end Proper

theorem type_of_notMem (s : Session) {c : Char} (h : c ∉ keyCharacters) : s.type c = s := by
  rw [type, ingest_of_notMem s h]

theorem typeAll_filter (s : Session) (text : List Char) :
    s.typeAll (text.filter (· ∈ keyCharacters)) = s.typeAll text := by
  induction text generalizing s with
  | nil => rfl
  | cons c rest ih =>
    by_cases hc : c ∈ keyCharacters
    · rw [List.filter_cons_of_pos (by simpa using hc)]
      exact ih (s.type c)
    · have htype : s.typeAll (c :: rest) = (s.type c).typeAll rest := rfl
      rw [List.filter_cons_of_neg (by simpa using hc), htype, type_of_notMem s hc, ih]

/-- Leaving out the characters that are refused does not change a run. -/
theorem run_filterMap_accepted? (s : Session) (commands : List Command) :
    s.run (commands.filterMap Command.accepted?) = s.run commands := by
  induction commands generalizing s with
  | nil => rfl
  | cons command rest ih =>
    have hrun : s.run (command :: rest) = (s.perform command).run rest := rfl
    cases command with
    | key c =>
      by_cases hc : c ∈ keyCharacters
      · have hkept : Command.accepted? (.key c) = some (.key c) := if_pos hc
        rw [List.filterMap_cons_some hkept]
        exact ih (s.type c)
      · have hdropped : Command.accepted? (.key c) = none := if_neg hc
        have hsame : s.perform (.key c) = s := type_of_notMem s hc
        rw [List.filterMap_cons_none hdropped, hrun, hsame, ih]
    | keys text =>
      have hkept : Command.accepted? (.keys text) =
        some (.keys (text.filter (· ∈ keyCharacters))) := rfl
      have hsame : s.perform (.keys text) = s.perform (.keys (text.filter (· ∈ keyCharacters))) :=
        (typeAll_filter s text).symm
      rw [List.filterMap_cons_some hkept, hrun, hsame]
      exact ih _
    | undo => exact ih s.undo
    | reset => exact ih s.reset

/-- Every session that a run leads to refuses what is no key and nothing else, finds no fault in
itself, and is what the run leads to without the characters refused. -/
theorem faultless_run (commands : List Command) : (fresh.run commands).Faultless ∧
    fresh.run (commands.filterMap Command.accepted?) = fresh.run commands :=
  ⟨(proper_fresh.run commands).faultless, fresh.run_filterMap_accepted? commands⟩

end Session
end PocketCalc
