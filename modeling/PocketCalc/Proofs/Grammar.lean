import PocketCalc.Proofs.Runs

/-!
# The grammar of a session

In every session that a run leads to, numbers and operators alternate, and what is being typed is
what may come next. A result stands alone. No sign follows a plus, and only the symbols of operators
are kept, whatever keys they were typed with.
-/
namespace PocketCalc

def ExactlyOne (a b c : Prop) : Prop := (a ∨ b ∨ c) ∧ ¬(a ∧ b) ∧ ¬(a ∧ c) ∧ ¬(b ∧ c)

def operatorSymbols : List Char := ['+', '-', '×', '÷', '%']

/-- The keys that stand for operators without being their symbols. -/
def operatorAliases : List Char := ['*', '/', 'x']

theorem mem_operatorSymbols {op : Operator} {c : Char} (h : op.symbol? = some c) :
    c ∈ operatorSymbols := by
  refine Operator.symbol_cases ?_ ?_ ?_ ?_ ?_ h <;> decide

theorem notMem_operatorAliases {c : Char} (h : c.isDigit ∨ c = '.' ∨
    (∃ op : Operator, op.symbol? = some c) ∨ c ∈ Expression.wordLetters) : c ∉ operatorAliases := by
  obtain hdigit | rfl | ⟨op, hop⟩ | hletter := h
  · exact forall_isDigit (p := fun c => c ∉ operatorAliases) (by decide) hdigit
  · decide
  · have hsymbols : ∀ c ∈ operatorSymbols, c ∉ operatorAliases :=
      List.all_iff_forall_prop.1 (by decide)
    exact hsymbols c (mem_operatorSymbols hop)
  · have hletters : ∀ c ∈ Expression.wordLetters, c ∉ operatorAliases :=
      List.all_iff_forall_prop.1 (by decide)
    exact hletters c hletter

namespace Expression

/-- A numeral or its sign is being typed. -/
def TypesNumber (e : Expression) : Prop :=
  e.tokens.length % 2 = 0 ∧ (IsLiteral e.pending ∨ e.pending = ['-'])

def TypesOperator (e : Expression) : Prop :=
  e.tokens.length % 2 = 1 ∧ ∃ c ∈ operatorSymbols, e.pending = [c]

/-- The subtotal is empty or a number as it is shown. -/
theorem subtotal_eq (e : Expression) : e.subtotal = [] ∨ ∃ x, e.subtotal = Format.number x := by
  unfold subtotal
  split
  · exact .inl rfl
  · split
    · exact .inr ⟨_, rfl⟩
    · exact .inl rfl

end Expression

/-- The grammar of a session. A result stands alone, what is typed next has its place behind the
tokens, and no sign and no negative number stands behind a plus. -/
structure Session.Grammatical (s : Session) : Prop where
  alternating : Alternating s.expression.tokens
  result : s.expression.evaluated = true → s.expression.tokens = [] ∧ s.subtotal = [] ∧
    ∃ x, s.expression.pending = Format.number x ∧ s.expression.display = Format.number x
  fragment : s.expression.evaluated = false →
    ExactlyOne (s.expression.isBlank = true) s.expression.TypesNumber s.expression.TypesOperator
  unsigned_fragment : s.expression.tokens.getLast? = some (.operator .plus) →
    s.expression.pending.head? ≠ some '-'
  unsigned_numbers : ∀ (i : Nat) (value : Float) (literal : List Char),
    s.expression.tokens[i]? = some (.operator .plus) →
    s.expression.tokens[i + 1]? = some (.number value literal) → literal.head? ≠ some '-'
  empty_fragment : s.expression.pending = [] → s.expression.isBlank = true
  no_aliases : ∀ c ∈ operatorAliases, c ∉ s.expression.display ∧ c ∉ s.expression.pending ∧
    (∀ t ∈ s.expression.tokens, c ∉ t.text) ∧ c ∉ s.subtotal

namespace Draft.WellFormed
variable {d : Draft} (h : d.WellFormed)
include h

theorem exactlyOne_fragment : ExactlyOne (d.expression.isBlank = true) d.expression.TypesNumber
    d.expression.TypesOperator := by
  have hblank : d.expression.isBlank = true ↔ d.pending = [] := by
    constructor
    · intro hb
      by_contra hp
      simp [Expression.isBlank, hp] at hb
    · intro hp
      rw [h.eq_blank_of_pending_eq_nil hp]
      rfl
  have hnumber : d.expression.TypesNumber → d.pending ≠ [] := by
    rintro ⟨-, hlit | hsign⟩
    · exact isLiteral_ne_nil hlit
    · simp [← pending_expression, hsign]
  have hoperator : d.expression.TypesOperator → d.pending ≠ [] := by
    rintro ⟨-, c, -, hp⟩
    simp [← pending_expression, hp]
  refine ⟨?_, fun hb => hnumber hb.2 (hblank.1 hb.1), fun hb => hoperator hb.2 (hblank.1 hb.1),
    fun hb => ?_⟩
  · obtain ⟨tokens, pending⟩ := d
    cases h.fragment with
    | blank _ => exact .inl (hblank.2 rfl)
    | numeral heven hlit => exact .inr (.inl ⟨heven, .inl hlit⟩)
    | sign heven => exact .inr (.inl ⟨heven, .inr rfl⟩)
    | operator hodd hc => exact .inr (.inr ⟨hodd, _, mem_operatorSymbols hc, rfl⟩)
  · obtain ⟨⟨heven, -⟩, hodd, -⟩ := hb
    omega

theorem unsigned_numbers {i : Nat} {value : Float} {literal : List Char}
    (hplus : d.tokens[i]? = some (.operator .plus))
    (hnumber : d.tokens[i + 1]? = some (.number value literal)) : literal.head? ≠ some '-' := by
  have hchain := (List.isChain_append.1 h.unsigned).1
  obtain ⟨hi, hfront⟩ := List.getElem?_eq_some_iff.1 hplus
  obtain ⟨hnext, hback⟩ := List.getElem?_eq_some_iff.1 hnumber
  have hfollow := List.isChain_iff_getElem.1 hchain i (by simpa using hnext)
  simp only [List.getElem_map, hfront, hback] at hfollow
  exact hfollow rfl

theorem no_aliases {c : Char} (hc : c ∈ operatorAliases) :
    c ∉ d.text ∧ c ∉ d.pending ∧ ∀ t ∈ d.tokens, c ∉ t.text := by
  have htext : c ∉ d.text := fun hmem => by
    obtain hdigit | hpoint | hsymbol := h.char_cases c hmem
    · exact notMem_operatorAliases (.inl hdigit) hc
    · exact notMem_operatorAliases (.inr (.inl hpoint)) hc
    · exact notMem_operatorAliases (.inr (.inr (.inl hsymbol))) hc
  refine ⟨htext, fun hmem => htext (by simp [text, hmem]), fun t ht hmem => htext ?_⟩
  have htokens : c ∈ tokensText d.tokens := List.mem_flatMap.2 ⟨t, ht, hmem⟩
  simp [text, htokens]

end Draft.WellFormed

namespace Session

theorem notMem_subtotal {c : Char} (hc : c ∈ operatorAliases) (e : Expression) :
    c ∉ e.subtotal := by
  obtain hnil | ⟨x, hx⟩ := e.subtotal_eq
  · simp [hnil]
  · rw [hx]
    exact fun hmem => notMem_operatorAliases (Expression.char_of_number hmem) hc

theorem grammatical_draft {d : Draft} (h : d.WellFormed) :
    (ofExpression d.expression).Grammatical where
  alternating := h.alternating
  result := fun hevaluated => by cases hevaluated
  fragment := fun _ => h.exactlyOne_fragment
  unsigned_fragment := fun hplus => h.mayFollow_getLast hplus rfl
  unsigned_numbers := fun _ _ _ => h.unsigned_numbers
  empty_fragment := fun hp => by
    rw [h.eq_blank_of_pending_eq_nil hp]
    rfl
  no_aliases := fun c hc => by
    obtain ⟨htext, hpending, htokens⟩ := h.no_aliases hc
    refine ⟨?_, hpending, htokens, notMem_subtotal hc _⟩
    by_cases hnil : d.text = []
    · have hzero : ∀ c ∈ operatorAliases, c ∉ emptyDisplay :=
        List.all_iff_forall_prop.1 (by decide)
      simpa [ofExpression, hnil] using hzero c hc
    · simpa [ofExpression, shown_of_ne_nil hnil] using htext

theorem grammatical_result (x : Float) :
    (ofExpression (.ofResult (Format.number x))).Grammatical where
  alternating := alternating_nil
  result := fun _ => ⟨rfl, rfl, x, rfl, rfl⟩
  fragment := fun hevaluated => by cases hevaluated
  unsigned_fragment := fun hplus => by cases hplus
  unsigned_numbers := fun _ _ _ hplus => by cases hplus
  empty_fragment := fun hp => absurd hp (Expression.number_ne_nil x)
  no_aliases := fun c hc => by
    have hnumber : c ∉ Format.number x := fun hmem =>
      notMem_operatorAliases (Expression.char_of_number hmem) hc
    exact ⟨hnumber, hnumber, fun t ht => absurd ht List.not_mem_nil, List.not_mem_nil⟩

/-- Every session that a run leads to is grammatical. -/
theorem grammatical_run (commands : List Command) : (fresh.run commands).Grammatical := by
  obtain ⟨d, hd, hrun⟩ | ⟨x, hrun⟩ := (proper_fresh.run commands).cases
  · rw [hrun]
    exact grammatical_draft hd
  · rw [hrun]
    exact grammatical_result x

end Session
end PocketCalc
