import PocketCalc.Proofs.LeftToRight

/-!
# The subtotal of a session

The tokens of a draft are those of an expression that has been typed, perhaps with an operator
behind it, and the subtotal is the value of that expression. Every command brings it up to date,
although a digit or a point never changes it. Where nothing but an operator or a sign stands behind
the tokens, equals shows the subtotal.
-/
namespace PocketCalc

/-- Whether tokens are those of an expression, perhaps with an operator behind it. -/
inductive IsFormula : List Token → Prop
  | intro (first : Literal) (terms : List Term) (dangling : Option Operator) :
      IsFormula (formula first terms ++ dangling.toList.map .operator)

theorem length_formula (first : Literal) (terms : List Term) :
    (formula first terms).length = 2 * terms.length + 1 := by
  induction terms using List.reverseRecOn with
  | nil => rfl
  | append_singleton terms t ih =>
    simp only [formula_append_singleton, List.length_append, List.length_cons, List.length_nil, ih]
    omega

namespace IsFormula
variable {tokens : List Token} (h : IsFormula tokens)
include h

/-- An odd number of tokens has no operator at the end. -/
theorem exists_eq_formula (hodd : tokens.length % 2 = 1) :
    ∃ first terms, tokens = formula first terms := by
  obtain ⟨first, terms, dangling⟩ := h
  cases dangling with
  | none => exact ⟨first, terms, List.append_nil _⟩
  | some op =>
    simp only [Option.toList_some, List.map_cons, List.map_nil, List.length_append, length_formula,
      List.length_singleton] at hodd
    omega

theorem append_operator (hodd : tokens.length % 2 = 1) (op : Operator) :
    IsFormula (tokens ++ [.operator op]) := by
  obtain ⟨first, terms, rfl⟩ := h.exists_eq_formula hodd
  exact .intro first terms (some op)

theorem append_number (heven : tokens.length % 2 = 0) (halternating : Alternating tokens)
    {n : Literal} (hunsigned : tokens.getLast? = some (.operator .plus) → n.negative = false) :
    IsFormula (tokens ++ [.number n.value n.text]) := by
  obtain ⟨first, terms, dangling⟩ := h
  cases dangling with
  | none =>
    simp only [Option.toList_none, List.map_nil, List.append_nil, length_formula] at heven
    omega
  | some op =>
    obtain ⟨symbol, hs⟩ := Operator.exists_symbol?_of_ne halternating.of_append_singleton.2.2
    let t : Term := ⟨symbol, op, n, Operator.ofSymbol?_of_symbol? hs, fun hplus => hunsigned (by
      simp [hplus])⟩
    have htokens : formula first (terms ++ [t]) =
        formula first terms ++ [.operator op] ++ [.number n.value n.text] := by
      simp [formula_append_singleton, t]
    have hformula := IsFormula.intro first (terms ++ [t]) none
    rw [htokens] at hformula
    simpa using hformula

/-- The value of the tokens is that of the expression. -/
theorem exists_leftToRight {total : Float} (htotal : Evaluation.final tokens = .ok total) :
    ∃ (first : Literal) (terms : List Term) (dangling : Option Operator),
      tokens = formula first terms ++ dangling.toList.map .operator ∧
        leftToRight first terms = .ok total := by
  obtain ⟨first, terms, dangling⟩ := h
  exact ⟨first, terms, dangling, rfl, by rwa [Evaluation.final_formula] at htotal⟩

theorem final_append_operator (hodd : tokens.length % 2 = 1) (op : Operator) :
    Evaluation.final (tokens ++ [.operator op]) = Evaluation.final tokens := by
  obtain ⟨first, terms, rfl⟩ := h.exists_eq_formula hodd
  have hwith := Evaluation.final_formula first terms (some op)
  have hwithout := Evaluation.final_formula first terms none
  rw [Option.toList_none, List.map_nil, List.append_nil] at hwithout
  rw [hwithout]
  exact hwith

end IsFormula

/-- The tokens of a draft are those of an expression, if there are any. -/
theorem Draft.WellFormed.isFormula {d : Draft} (h : d.WellFormed) (hne : d.tokens ≠ []) :
    IsFormula d.tokens := by
  induction h using Draft.WellFormed.growth_induction with
  | empty => exact absurd rfl hne
  | grows hbefore hafter hgrows ih =>
    cases hgrows with
    | first _ => exact absurd rfl hne
    | digit _ _ => exact ih hne
    | point _ _ => exact ih hne
    | @operand tokens op _ _ _ _ =>
      have hodd : tokens.length % 2 = 1 := hafter.alternating.of_append_singleton.2.1
      have hfront : tokens ≠ [] := by
        rintro rfl
        simp at hodd
      exact (ih hfront).append_operator hodd op
    | @operator tokens value literal _ _ hlit hread _ =>
      obtain ⟨n, rfl⟩ := hlit
      obtain rfl : n.value = value := Option.some.inj (n.read?_text.symm.trans hread)
      by_cases hfront : tokens = []
      · subst hfront
        exact .intro n [] none
      · have heven : tokens.length % 2 = 0 := hafter.alternating.of_append_singleton.2.1
        refine (ih hfront).append_number heven hbefore.alternating fun hplus => ?_
        have hsign := hbefore.mayFollow_getLast hplus rfl
        obtain ⟨c, rest, htext, ⟨-, rfl, -⟩ | ⟨hnegative, -⟩⟩ := n.text_eq_cons
        · exact absurd (by rw [htext]; rfl) hsign
        · exact hnegative

namespace Expression

/-- The subtotal is a matter of the tokens. -/
theorem subtotal_congr {e e' : Expression} (h : e.tokens = e'.tokens) :
    e.subtotal = e'.subtotal := by
  simp only [subtotal, h]

theorem subtotal_of_tokens_eq_nil {e : Expression} (h : e.tokens = []) : e.subtotal = [] := by
  rw [subtotal, if_pos h]

theorem subtotal_eq_number {e : Expression} (h : Alternating e.tokens) (hne : e.tokens ≠ [])
    {total : Float} (htotal : Evaluation.final e.tokens = .ok total) :
    e.subtotal = Format.number total := by
  rw [subtotal, if_neg hne, Evaluation.current_eq_final h, htotal]

end Expression

namespace Draft

theorem token_of_operator {d : Draft} {op : Operator} (hk : d.kind = .operator op) :
    d.token = .operator op := by rw [token, hk]

/-- A key leaves the tokens alone, or the operator or the number in front of it becomes a token. A
number does so only for the key of an operator. -/
theorem tokens_press (d : Draft) (key : Key) : (d.press key).tokens = d.tokens ∨
    (d.press key).tokens = d.tokens ++ [d.token] ∧
      ((∃ op, d.kind = .operator op) ∨ d.kind = .number ∧ ∃ op, key = .operator op) := by
  simp only [press]
  cases hk : d.kind with
  | empty => exact .inl rfl
  | number =>
    cases key with
    | digit c => exact .inl rfl
    | point =>
      simp only [pressNumber]
      split <;> exact .inl rfl
    | operator op => exact .inr ⟨rfl, .inr ⟨rfl, op, rfl⟩⟩
    | equals => exact .inl rfl
  | sign => cases key <;> exact .inl rfl
  | operator op =>
    cases key with
    | digit c => exact .inr ⟨rfl, .inl ⟨op, rfl⟩⟩
    | point => exact .inr ⟨rfl, .inl ⟨op, rfl⟩⟩
    | operator new =>
      cases new with
      | minus =>
        simp only [pressOperator]
        split
        · exact .inl rfl
        · exact .inr ⟨rfl, .inl ⟨op, rfl⟩⟩
      | plus | times | divide | percent | placeholder => exact .inl rfl
    | equals => exact .inl rfl

end Draft

namespace Draft.WellFormed
variable {d : Draft} (h : d.WellFormed)
include h

theorem tokens_ne_nil_of_operator {op : Operator} (hk : d.kind = .operator op) : d.tokens ≠ [] := by
  intro hnil
  have hodd := (h.operator_of_kind hk).1
  simp [hnil] at hodd

/-- An operator that becomes a token does not change the subtotal. -/
theorem subtotal_append_operator {op : Operator} (hk : d.kind = .operator op) {e : Expression}
    (he : e.tokens = d.tokens ++ [.operator op]) : e.subtotal = d.expression.subtotal := by
  have hne := h.tokens_ne_nil_of_operator hk
  have hodd := (h.operator_of_kind hk).1
  obtain ⟨ht, -, hfits⟩ := h.token_spec (by simp [hk]) (by simp [hk])
  have halternating : Alternating e.tokens := by
    rw [he, ← token_of_operator hk]
    exact alternating_append_singleton.2 ⟨h.alternating, hfits⟩
  obtain ⟨total, htotal⟩ := Evaluation.exists_final h.alternating
  have hlonger : Evaluation.final e.tokens = .ok total := by
    rw [he, (h.isFormula hne).final_append_operator hodd, htotal]
  have hshorter : d.expression.subtotal = Format.number total :=
    Expression.subtotal_eq_number h.alternating hne htotal
  rw [hshorter, Expression.subtotal_eq_number halternating (by simp [he]) hlonger]

theorem tokens_eq_nil_of_text (ht : d.text = [] ∨ d.text = ['0']) : d.tokens = [] := by
  obtain hnil | hzero := ht
  · rw [h.text_eq_nil_iff.1 hnil]
    rfl
  · rw [h.eq_of_text_eq_zero hzero]

theorem tokens_step_of_text (ht : d.text = [] ∨ d.text = ['0']) (key : Key) :
    (d.step key).tokens = d.tokens := by
  rw [Draft.step, if_pos ht]
  split
  · exact (h.tokens_eq_nil_of_text ht).symm
  · rfl

/-- A digit or a point turns nothing but an operator into a token. -/
theorem tokens_step {key : Key} (hkey : (∃ c, key = .digit c) ∨ key = .point) :
    (d.step key).tokens = d.tokens ∨
      ∃ op, d.kind = .operator op ∧ (d.step key).tokens = d.tokens ++ [.operator op] := by
  by_cases ht : d.text = [] ∨ d.text = ['0']
  · exact .inl (h.tokens_step_of_text ht key)
  · rw [Draft.step, if_neg ht]
    obtain hsame | ⟨hmore, ⟨op, hk⟩ | ⟨-, op, rfl⟩⟩ := d.tokens_press key
    · exact .inl hsame
    · exact .inr ⟨op, hk, by rw [hmore, token_of_operator hk]⟩
    · simp at hkey

theorem subtotal_step {key : Key} (hkey : (∃ c, key = .digit c) ∨ key = .point) :
    (d.step key).expression.subtotal = d.expression.subtotal := by
  obtain hsame | ⟨op, hk, htokens⟩ := h.tokens_step hkey
  · exact Expression.subtotal_congr hsame
  · exact h.subtotal_append_operator hk htokens

/-- Where an operator or a sign stands behind the tokens, they are what equals evaluates. -/
theorem final_finished (hk : (∃ op, d.kind = .operator op) ∨ d.kind = .sign) :
    Evaluation.final d.finished = Evaluation.final d.tokens := by
  obtain ⟨op, hk⟩ | hk := hk
  · have hodd := (h.operator_of_kind hk).1
    simp only [finished, hk, token_of_operator hk]
    exact (h.isFormula (h.tokens_ne_nil_of_operator hk)).final_append_operator hodd op
  · simp only [finished, hk]

end Draft.WellFormed

namespace Expression

/-- A result counts as a number, also if it is none. -/
theorem fragmentKind_ofResult (x : Float) :
    (ofResult (Format.number x)).fragmentKind = .number := by
  obtain hshown | hsentinel := isShown_or_sentinel x
  · exact kindOf_of_isLiteral [] hshown.isLiteral
  · have hwords : ∀ text ∈ sentinels, kindOf [] text = .number :=
      List.all_iff_forall_prop.1 (by decide)
    exact hwords _ hsentinel

theorem exists_step_ofResult (x : Float) {key : Key} (hlegal : key.Legal)
    (hkey : (∃ c, key = .digit c) ∨ key = .point) :
    ∃ next, (ofResult (Format.number x)).step key = .ok next ∧ next.tokens = [] := by
  have hequals : key ≠ .equals := by
    rintro rfl
    simp at hkey
  cases hcarries : (ofResult (Format.number x)).carriesOver key with
  | false =>
    rw [step_ofResult_of_dropped hcarries]
    have hblank := Draft.wellFormed_blank
    refine ⟨_, hblank.step_expression hlegal fun he => absurd he hequals, ?_⟩
    obtain hsame | ⟨op, hk, -⟩ := hblank.tokens_step hkey
    · exact hsame
    · cases hk
  | true =>
    obtain ⟨hdigit, hfinite⟩ := carriesOver_ofResult.1 hcarries
    have hshown := isShown_of_isFinite hfinite
    have hk : (Draft.first (Format.number x)).kind = .number :=
      kindOf_of_isLiteral [] hshown.isLiteral
    rw [step_ofResult hcarries hshown]
    refine ⟨_,
      (wellFormed_first_of_isShown hshown).press_expression (by simp [hk]) hlegal hequals, ?_⟩
    obtain ⟨c, rfl⟩ | rfl := hkey
    · cases hdigit
    · simp only [Draft.tokens_expression, Draft.press, hk, Draft.pressNumber]
      split <;> rfl

end Expression

namespace Session

/-- What the subtotal has to do with the tokens and with equals. It is the value of the tokens from
left to right, less an operator at the end; typing a number does not change it, and equals behind an
operator or a sign shows it. -/
structure UpToDate (s : Session) : Prop where
  subtotal_eq_nil_iff : s.subtotal = [] ↔ s.expression.tokens = []
  subtotal_eq : s.expression.tokens ≠ [] → ∃ (first : Literal) (terms : List Term)
    (dangling : Option Operator) (total : Float),
      s.expression.tokens = formula first terms ++ dangling.toList.map .operator ∧
        leftToRight first terms = .ok total ∧ s.subtotal = Format.number total
  subtotal_type : ∀ c, c.isDigit ∨ c = '.' → (s.type c).subtotal = s.subtotal
  mainText_equals : (∃ op, s.expression.fragmentKind = .operator op) ∨
    s.expression.fragmentKind = .sign ∧ s.expression.tokens ≠ [] →
      (s.type '=').mainText = s.subtotal

theorem exists_ofChar_of_number {c : Char} (hc : c.isDigit ∨ c = '.') :
    ∃ key, Key.ofChar c = .ok key ∧ key ≠ .equals ∧ ((∃ c, key = .digit c) ∨ key = .point) := by
  obtain hdigit | rfl := hc
  · exact ⟨.digit c, Key.ofChar_of_isDigit hdigit, by simp, .inl ⟨c, rfl⟩⟩
  · exact ⟨.point, rfl, by simp, .inr rfl⟩

theorem upToDate_draft {d : Draft} (h : d.WellFormed) : (ofExpression d.expression).UpToDate where
  subtotal_eq_nil_iff := by
    constructor
    · intro hsubtotal
      by_contra hne
      obtain ⟨total, htotal⟩ := Evaluation.exists_final h.alternating
      exact Expression.number_ne_nil total
        ((Expression.subtotal_eq_number h.alternating hne htotal).symm.trans hsubtotal)
    · exact Expression.subtotal_of_tokens_eq_nil
  subtotal_eq := fun hne => by
    obtain ⟨total, htotal⟩ := Evaluation.exists_final h.alternating
    obtain ⟨first, terms, dangling, htokens, hvalue⟩ := (h.isFormula hne).exists_leftToRight htotal
    exact ⟨first, terms, dangling, total, htokens, hvalue,
      Expression.subtotal_eq_number h.alternating hne htotal⟩
  subtotal_type := fun c hc => by
    obtain ⟨key, hkey, hequals, hnumber⟩ := exists_ofChar_of_number hc
    have hstep := h.step_expression (Key.legal_of_ofChar hkey) fun he => absurd he hequals
    rw [type_of_step hkey hstep]
    exact h.subtotal_step hnumber
  mainText_equals := fun hk => by
    obtain ⟨total, htotal⟩ := Evaluation.exists_final h.alternating
    have hfragment : (∃ op, d.kind = .operator op) ∨ d.kind = .sign := hk.imp_right And.left
    have hne : d.tokens ≠ [] := by
      obtain ⟨op, hoperator⟩ | ⟨-, hne⟩ := hk
      · exact h.tokens_ne_nil_of_operator hoperator
      · exact hne
    have hz : ¬(d.text = [] ∨ d.text = ['0']) := fun ht => hne (h.tokens_eq_nil_of_text ht)
    have hfinished := h.final_finished hfragment
    rw [htotal] at hfinished
    rw [type_of_step rfl (h.step_equals hz hfinished)]
    exact (Expression.subtotal_eq_number h.alternating hne htotal).symm

theorem upToDate_result (x : Float) : (ofExpression (.ofResult (Format.number x))).UpToDate where
  subtotal_eq_nil_iff := ⟨fun _ => rfl, fun _ => rfl⟩
  subtotal_eq := fun hne => absurd rfl hne
  subtotal_type := fun c hc => by
    obtain ⟨key, hkey, hequals, hnumber⟩ := exists_ofChar_of_number hc
    obtain ⟨next, hstep, hnext⟩ :=
      Expression.exists_step_ofResult x (Key.legal_of_ofChar hkey) hnumber
    rw [type_of_step hkey hstep]
    exact Expression.subtotal_of_tokens_eq_nil hnext
  mainText_equals := fun hk => by
    obtain ⟨op, hoperator⟩ | ⟨-, hne⟩ := hk
    · cases (Expression.fragmentKind_ofResult x).symm.trans hoperator
    · exact absurd rfl hne

/-- In every session that a run leads to the subtotal is up to date. -/
theorem upToDate_run (commands : List Command) : (fresh.run commands).UpToDate := by
  obtain ⟨d, hd, hrun⟩ | ⟨x, hrun⟩ := (proper_fresh.run commands).cases
  · rw [hrun]
    exact upToDate_draft hd
  · rw [hrun]
    exact upToDate_result x

end Session

/-- Whatever the tokens are, they come to the same while they are typed and when they are finished,
unless they are two numbers: then the first one is the value while they are typed, and the second
one is a fault when they are finished. No session has such tokens. -/
theorem Evaluation.current_eq_final_unless :
    (∀ tokens, current tokens = final tokens ↔ ¬IsTwoNumbers tokens) ∧
      (∀ (first second : Float) (literal literal' : List Char),
        current [.number first literal, .number second literal'] = .ok first ∧
          final [.number first literal, .number second literal'] = .error (.unexpectedToken 1)) ∧
        ∀ commands, current (Session.fresh.run commands).expression.tokens =
          final (Session.fresh.run commands).expression.tokens := by
  refine ⟨current_eq_final_iff, current_final_of_two_numbers, fun commands => current_eq_final ?_⟩
  obtain ⟨d, hd, hrun⟩ | ⟨x, hrun⟩ := (Session.proper_fresh.run commands).cases
  · rw [hrun]
    exact hd.alternating
  · rw [hrun]
    exact alternating_nil

end PocketCalc
