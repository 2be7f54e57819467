import PocketCalc.Proofs.Runs

/-!
# Retyping a display

A draft grows by the key of each character of its text, so that typing its text leads back to it:
the display alone determines the tokens and the fragment. The one text that cannot be typed begins
with a zero and an operator, since on a single zero operators are ignored. A finite result is a
numeral, and typing it leads to the same expression, but for the mark of a result.
-/
namespace PocketCalc

namespace Key

theorem ofChar_of_isDigit {c : Char} (h : c.isDigit) : ofChar c = .ok (.digit c) := by
  rw [ofChar, if_pos h]

theorem ofChar_of_symbol? {op : Operator} {c : Char} (h : op.symbol? = some c) :
    ofChar c = .ok (.operator op) := by
  refine Operator.symbol_cases ?_ ?_ ?_ ?_ ?_ h <;> rfl

end Key

namespace Session

/-- A character whose key is not equals does to a session of a draft what the key
does to the draft. -/
theorem enter_expression {d : Draft} (h : d.WellFormed) {c : Char} {key : Key}
    (hkey : Key.ofChar c = .ok key) (he : key = .equals → d.text = [] ∨ d.text = ['0']) :
    (ofExpression d.expression).enter c = .ok (ofExpression (d.step key).expression) := by
  exact enter_of_step hkey (h.step_expression (Key.legal_of_ofChar hkey) he)

end Session

namespace Draft

/-- Whether a text begins with a zero and an operator, and so cannot be typed. -/
def StartsWithZeroOperator (text : List Char) : Prop :=
  ∃ c rest, text = '0' :: c :: rest ∧ Operator.isSymbol c = true

theorem startsWithZeroOperator_iff {text : List Char} : StartsWithZeroOperator text ↔
    text.head? = some '0' ∧ text[1]?.any Operator.isSymbol = true := by
  match text with
  | [] => simp [StartsWithZeroOperator]
  | [c] => simp [StartsWithZeroOperator]
  | c :: d :: rest => simp [StartsWithZeroOperator]

instance (text : List Char) : Decidable (StartsWithZeroOperator text) :=
  decidable_of_iff _ startsWithZeroOperator_iff.symm

theorem StartsWithZeroOperator.append {front : List Char} (h : StartsWithZeroOperator front)
    (back : List Char) : StartsWithZeroOperator (front ++ back) := by
  obtain ⟨c, rest, rfl, hc⟩ := h
  exact ⟨c, rest ++ back, rfl, hc⟩

/-- Only on nothing and on a single zero a key begins a number. -/
theorem step_eq_press {d : Draft} {key : Key} (hne : d.pending ≠ []) (hz : d.text ≠ ['0']) :
    d.step key = d.press key := by
  have htext : d.text ≠ [] := by simp [text, hne]
  rw [step, if_neg (by simp [htext, hz])]

theorem kind_of_isLiteral {d : Draft} (h : IsLiteral d.pending) : d.kind = .number :=
  Expression.kindOf_of_isLiteral d.tokens h

theorem token_of_isLiteral {d : Draft} {value : Float} (h : IsLiteral d.pending)
    (hread : Numeral.read? d.pending = some value) : d.token = .number value d.pending := by
  simp [token, kind_of_isLiteral h, hread]

theorem kind_of_symbol? {tokens : List Token} {op : Operator} {symbol : Char}
    (h : WellFormed ⟨tokens, [symbol]⟩) (hodd : tokens.length % 2 = 1)
    (hs : op.symbol? = some symbol) : kind ⟨tokens, [symbol]⟩ = .operator op :=
  Expression.kindOf_of_symbol? h.alternating hodd hs

theorem token_of_symbol? {tokens : List Token} {op : Operator} {symbol : Char}
    (h : WellFormed ⟨tokens, [symbol]⟩) (hodd : tokens.length % 2 = 1)
    (hs : op.symbol? = some symbol) : token ⟨tokens, [symbol]⟩ = .operator op := by
  rw [token, kind_of_symbol? h hodd hs]

theorem WellFormed.even_of_isLiteral {d : Draft} (h : d.WellFormed) (hlit : IsLiteral d.pending) :
    d.tokens.length % 2 = 0 := (h.number_of_kind (kind_of_isLiteral hlit)).1

theorem step_digit {tokens : List Token} {front : List Char} {c : Char}
    (h : WellFormed ⟨tokens, front⟩) (hnext : WellFormed ⟨tokens, front ++ [c]⟩)
    (hfront : IsLiteral front ∨ front = ['-']) (hc : c.isDigit) :
    step ⟨tokens, front⟩ (.digit c) = ⟨tokens, front ++ [c]⟩ := by
  have hzero : text ⟨tokens, front⟩ ≠ ['0'] := by
    intro hz
    obtain ⟨rfl, rfl⟩ := Draft.mk.inj (h.eq_of_text_eq_zero hz)
    -- no zero stands in front of another digit
    have hnot : c.isDigit = false := hnext.noLeadingZero c [] rfl
    simp [hc] at hnot
  obtain hlit | rfl := hfront
  · have hk : kind ⟨tokens, front⟩ = .number := kind_of_isLiteral hlit
    rw [step_eq_press (isLiteral_ne_nil hlit) hzero]
    simp only [press, hk, pressNumber, extend]
  · have heven : tokens.length % 2 = 0 := hnext.even_of_isLiteral (isLiteral_minus_digit hc)
    have hk : kind ⟨tokens, ['-']⟩ = .sign := Expression.kindOf_minus h.alternating heven
    rw [step_eq_press (by simp) hzero]
    simp only [press, hk, pressSign, extend]

/-- A numeral without a point grows by the key of a point, even a single zero. -/
theorem step_point {tokens : List Token} {front : List Char} (h : WellFormed ⟨tokens, front⟩)
    (hlit : IsLiteral front) (hp : '.' ∉ front) :
    step ⟨tokens, front⟩ .point = ⟨tokens, front ++ ['.']⟩ := by
  by_cases hzero : text ⟨tokens, front⟩ = ['0']
  · obtain ⟨rfl, rfl⟩ := Draft.mk.inj (h.eq_of_text_eq_zero hzero)
    rfl
  · have hk : kind ⟨tokens, front⟩ = .number := kind_of_isLiteral hlit
    rw [step_eq_press (isLiteral_ne_nil hlit) hzero]
    simp only [press, hk, pressNumber, hp, extend, if_false]

/-- An operator grows by the key of an operand's first character. -/
theorem step_operand {tokens : List Token} {op : Operator} {symbol c : Char}
    (h : WellFormed ⟨tokens, [symbol]⟩) (hs : op.symbol? = some symbol)
    (hodd : tokens.length % 2 = 1) {key : Key} (hkey : Key.ofChar c = .ok key)
    (hc : c.isDigit ∨ c = '-' ∧ op ≠ .plus) :
    step ⟨tokens, [symbol]⟩ key = ⟨tokens ++ [.operator op], [c]⟩ := by
  have hk := kind_of_symbol? h hodd hs
  have htoken := token_of_symbol? h hodd hs
  rw [step_eq_press (by simp) (h.text_ne_zero (by simp [hk]))]
  obtain hdigit | ⟨rfl, hplus⟩ := hc
  · obtain rfl := Except.ok.inj (hkey.symm.trans (Key.ofChar_of_isDigit hdigit))
    simp only [press, hk, pressOperator, push, htoken]
  · have hminus : Key.ofChar '-' = .ok (.operator .minus) := rfl
    obtain rfl := Except.ok.inj (hkey.symm.trans hminus)
    simp only [press, hk, pressOperator, if_neg hplus, push, htoken]

theorem step_operator {tokens : List Token} {value : Float} {literal : List Char} {op : Operator}
    {c : Char} (hlit : IsLiteral literal) (hread : Numeral.read? literal = some value)
    (hc : op.symbol? = some c) (hzero : text ⟨tokens, literal⟩ ≠ ['0']) :
    step ⟨tokens, literal⟩ (.operator op) = ⟨tokens ++ [.number value literal], [c]⟩ := by
  have hk : kind ⟨tokens, literal⟩ = .number := kind_of_isLiteral hlit
  have htoken : token ⟨tokens, literal⟩ = .number value literal := token_of_isLiteral hlit hread
  rw [step_eq_press (isLiteral_ne_nil hlit) hzero]
  simp only [press, hk, pressNumber, push, htoken, Operator.text_of_symbol? hc]

/-- A draft grows by the key of the character it grows by. -/
theorem Grows.exists_key {before after : Draft} {c : Char} (h : Grows before c after)
    (hbefore : before.WellFormed) (hafter : after.WellFormed)
    (hz : ¬StartsWithZeroOperator after.text) :
    ∃ key, Key.ofChar c = .ok key ∧ key ≠ .equals ∧ before.step key = after := by
  have hdigit {c : Char} (hc : c.isDigit) := Key.ofChar_of_isDigit hc
  have hminus : Key.ofChar '-' = .ok (.operator .minus) := rfl
  cases h with
  | first hc =>
    obtain hc | rfl := hc
    · exact ⟨_, hdigit hc, by simp, rfl⟩
    · exact ⟨_, hminus, by simp, rfl⟩
  | digit hfront hc => exact ⟨_, hdigit hc, by simp, step_digit hbefore hafter hfront hc⟩
  | point hlit hp => exact ⟨.point, rfl, by simp, step_point hbefore hlit hp⟩
  | operand hs hc =>
    have hodd := hafter.alternating.of_append_singleton.2.1
    have hstep {key : Key} (hkey : Key.ofChar c = .ok key) := step_operand hbefore hs hodd hkey hc
    obtain hc | ⟨rfl, -⟩ := hc
    · exact ⟨_, hdigit hc, by simp, hstep (hdigit hc)⟩
    · exact ⟨_, hminus, by simp, hstep hminus⟩
  | @operator tokens value literal op _ hlit hread hc =>
    have hzero : text ⟨tokens, literal⟩ ≠ ['0'] := by
      intro hzero
      obtain ⟨rfl, rfl⟩ := Draft.mk.inj (hbefore.eq_of_text_eq_zero hzero)
      exact hz ⟨c, [], rfl, Operator.isSymbol_iff.2 ⟨op, hc⟩⟩
    exact ⟨_, Key.ofChar_of_symbol? hc, by simp, step_operator hlit hread hc hzero⟩

end Draft

namespace Session

/-- Typing the text of a draft leads to the draft. -/
theorem enterAll_text {d : Draft} (h : d.WellFormed) (hz : ¬Draft.StartsWithZeroOperator d.text) :
    fresh.enterAll d.text = .ok (ofExpression d.expression) := by
  -- what the draft has grown from is typed already
  induction h using Draft.WellFormed.growth_induction with
  | empty => rfl
  | @grows before c after hbefore hafter hgrows ih =>
    obtain ⟨key, hkey, he, hstep⟩ := hgrows.exists_key hbefore hafter hz
    rw [hgrows.text_eq] at hz ⊢
    have hfront := ih fun hfront => hz (hfront.append [c])
    have hlast := enter_expression hbefore hkey fun hequals => absurd hequals he
    rw [hstep] at hlast
    rw [enterAll_append hfront, enterAll_cons hlast, enterAll_nil]

/-- Typing what a session shows leads to the session again, without the mark of a result. -/
theorem enterAll_mainText_run (commands : List Command)
    (hempty : (fresh.run commands).mainText ≠ emptyDisplay)
    (hsentinel : (fresh.run commands).mainText ∉ sentinels)
    (hzero : ¬Draft.StartsWithZeroOperator (fresh.run commands).mainText) :
    fresh.enterAll (fresh.run commands).mainText =
      .ok { fresh.run commands with
        expression := { (fresh.run commands).expression with evaluated := false } } := by
  obtain ⟨d, hd, hrun⟩ | ⟨x, hrun⟩ := (proper_fresh.run commands).cases
  · rw [hrun] at hempty hzero ⊢
    have hne : d ≠ .blank := by
      rintro rfl
      exact hempty rfl
    have htext : (ofExpression d.expression).mainText = d.text := hd.display_of_ne_blank hne
    rw [htext] at hzero ⊢
    exact enterAll_text hd hzero
  · rw [hrun] at hsentinel hzero ⊢
    have hshown : IsShown (Format.number x) := (isShown_or_sentinel x).resolve_right hsentinel
    have hd := Expression.wellFormed_first_of_isShown hshown
    have hexpression := Expression.expression_first_of_isShown hshown
    have htyped := enterAll_text hd hzero
    rw [hexpression] at htyped
    exact htyped

/-- A sign and a fraction are taken back, and the result is carried over. -/
def carryOver : List Command :=
  [.keys "7×-2..5-".toList, .undo, .undo, .undo, .keys ".5=".toList, .key '-', .key '3']

/-- Neither what was taken back nor the result leaves a trace. -/
theorem enterAll_mainText_carryOver : (fresh.run carryOver).mainText = "-17.5-3".toList ∧
    fresh.enterAll (fresh.run carryOver).mainText =
      .ok { fresh.run carryOver with
        expression := { (fresh.run carryOver).expression with evaluated := false } } := by
  have hmain : (fresh.run carryOver).mainText = "-17.5-3".toList := by decide +kernel
  have hempty : (fresh.run carryOver).mainText ≠ emptyDisplay := by
    rw [hmain]
    decide
  have hsentinel : (fresh.run carryOver).mainText ∉ sentinels := by
    rw [hmain]
    decide
  have hzero : ¬Draft.StartsWithZeroOperator (fresh.run carryOver).mainText := by
    rw [hmain]
    decide
  exact ⟨hmain, enterAll_mainText_run carryOver hempty hsentinel hzero⟩

end Session
end PocketCalc
