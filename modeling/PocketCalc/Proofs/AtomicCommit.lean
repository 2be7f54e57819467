import PocketCalc.Proofs.Edits
import PocketCalc.Proofs.Grammar

/-!
# Committing a fragment

A commit reads the fragment as a token before it changes anything, so it does all of its steps or
none. It fails for two reasons only, and which one it is depends on the fragment alone. Where the
display shows the tokens and the fragment and the fragment is a numeral or the symbol of an
operator, it succeeds, and the display shows the new tokens and the next fragment.
-/
namespace PocketCalc

/-- The token a fragment stands for: a number if it can be read as one, and otherwise the operator
whose symbol or alias it is. -/
inductive Token.ReadFrom (fragment : List Char) : Token → Prop
  | number {value : Float} : Numeral.read? fragment = some value →
      ReadFrom fragment (number value fragment)
  | operator {c : Char} {op : Operator} : fragment = [c] → Numeral.read? fragment = none →
      Operator.ofSymbol? c = some op → ReadFrom fragment (operator op)

namespace Operator

/-- Symbols and aliases stand for operators, and no other character does. -/
theorem ofSymbol?_eq_none_iff {c : Char} :
    ofSymbol? c = none ↔ c ∉ operatorSymbols ∧ c ∉ operatorAliases := by
  constructor
  · intro hnone
    have hall : ∀ d ∈ operatorSymbols ++ operatorAliases, (ofSymbol? d).isSome :=
      List.all_iff_forall_prop.1 (by decide)
    have hout : c ∉ operatorSymbols ++ operatorAliases := fun hc => by simpa [hnone] using hall c hc
    simpa [not_or] using hout
  · rintro ⟨hsymbols, haliases⟩
    unfold ofSymbol?
    split <;> simp_all [operatorSymbols, operatorAliases]

theorem exists_symbol?_of_mem {c : Char} (h : c ∈ operatorSymbols) :
    ∃ op : Operator, op.symbol? = some c := by
  have hall : ∀ c ∈ operatorSymbols, isSymbol c := List.all_iff_forall_prop.1 (by decide)
  exact isSymbol_iff.1 (hall c h)

theorem read?_of_symbol? {op : Operator} {c : Char} (h : op.symbol? = some c) :
    Numeral.read? [c] = none := by
  refine symbol_cases ?_ ?_ ?_ ?_ ?_ h <;> rfl

end Operator

namespace Expression

theorem read?_nil : Numeral.read? [] = none := by decide

theorem tokenOf_of_cons_cons {c d : Char} {rest : List Char}
    (h : Numeral.read? (c :: d :: rest) = none) :
    tokenOf (c :: d :: rest) = .error .malformedFragment := by
  simp [tokenOf, h]

/-- A single character that cannot be read as a number has to be an operator. -/
theorem tokenOf_singleton {c : Char} (h : Numeral.read? [c] = none) :
    tokenOf [c] = (Operator.ofChar c).map .operator := by
  simp [tokenOf, h]

theorem tokenOf_of_read? {fragment : List Char} {value : Float}
    (h : Numeral.read? fragment = some value) :
    tokenOf fragment = .ok (.number value fragment) := by
  cases fragment with
  | nil => simp [read?_nil] at h
  | cons c rest => simp [tokenOf, h]

/-- What a fragment is read as: a token, or one of two errors. -/
inductive Reading (fragment : List Char) : Except CalcError Token → Prop
  | token {t : Token} : t.ReadFrom fragment → Reading fragment (.ok t)
  | malformed : fragment = [] ∨ Numeral.read? fragment = none ∧ 2 ≤ fragment.length →
      Reading fragment (.error .malformedFragment)
  | unknown {c : Char} : fragment = [c] → Numeral.read? fragment = none →
      Operator.ofSymbol? c = none → Reading fragment (.error (.unknownOperator c))

theorem reading_tokenOf (fragment : List Char) : Reading fragment (tokenOf fragment) := by
  cases hread : Numeral.read? fragment with
  | some value =>
    rw [tokenOf_of_read? hread]
    exact .token (.number hread)
  | none =>
    match fragment with
    | [] => exact .malformed (.inl rfl)
    | [c] =>
      rw [tokenOf_singleton hread, Operator.ofChar]
      cases hop : Operator.ofSymbol? c with
      | none => exact .unknown rfl hread hop
      | some op => exact .token (.operator rfl hread hop)
    | c :: d :: rest =>
      rw [tokenOf_of_cons_cons hread]
      exact .malformed (.inr ⟨hread, by simp⟩)

/-- A fragment is malformed if it is empty, or long and no number. -/
theorem tokenOf_eq_malformed_iff {fragment : List Char} :
    tokenOf fragment = .error .malformedFragment ↔
      fragment = [] ∨ Numeral.read? fragment = none ∧ 2 ≤ fragment.length := by
  have hreading := reading_tokenOf fragment
  constructor
  · intro herror
    rw [herror] at hreading
    cases hreading with
    | malformed h => exact h
  · intro h
    generalize tokenOf fragment = result at hreading
    cases hreading with
    | malformed _ => rfl
    | token ht => cases ht <;> simp_all [read?_nil]
    | unknown hsingle _ _ => simp [hsingle] at h

/-- A fragment names an unknown operator if it is a single character that stands for nothing. -/
theorem tokenOf_eq_unknown_iff {fragment : List Char} {c : Char} :
    tokenOf fragment = .error (.unknownOperator c) ↔
      fragment = [c] ∧ Numeral.read? [c] = none ∧ c ∉ operatorSymbols ∧ c ∉ operatorAliases := by
  rw [← Operator.ofSymbol?_eq_none_iff]
  have hreading := reading_tokenOf fragment
  constructor
  · intro herror
    rw [herror] at hreading
    cases hreading with
    | unknown hsingle hread hop => exact ⟨hsingle, hsingle ▸ hread, hop⟩
  · rintro ⟨rfl, hread, hop⟩
    rw [tokenOf_singleton hread, Operator.ofChar, hop]
    rfl

/-- A fragment that can be typed is read as a token with its text. -/
theorem exists_token {fragment : List Char}
    (h : IsLiteral fragment ∨ ∃ c ∈ operatorSymbols, fragment = [c]) :
    ∃ t : Token, tokenOf fragment = .ok t ∧ t.ReadFrom fragment ∧ t.text = fragment := by
  obtain hlit | ⟨c, hc, rfl⟩ := h
  · obtain ⟨value, hread⟩ := hlit.exists_read?
    exact ⟨.number value fragment, tokenOf_of_read? hread, .number hread, rfl⟩
  · obtain ⟨op, hop⟩ := Operator.exists_symbol?_of_mem hc
    exact ⟨.operator op, tokenOf_of_symbol? hop,
      .operator rfl (Operator.read?_of_symbol? hop) (Operator.ofSymbol?_of_symbol? hop),
      Operator.text_of_symbol? hop⟩

def keptTokens (e : Expression) (replaceLast : Bool) : List Token :=
  if replaceLast then e.tokens.dropLast else e.tokens

/-- The steps of a commit on an expression that is changed in place, from what the fragment is read
as. A step that fails leaves the expression as the steps before have made it. -/
def commitSteps (reading : Except CalcError Token) (next : List Char) (replaceLast : Bool) :
    EStateM CalcError Expression Unit := do
  let t ← MonadExcept.ofExcept reading
  if replaceLast then modify pop
  modify fun e => { e with tokens := e.tokens ++ [t] }
  modify fun e => { e with pending := next }
  modify fun e => { e with display := e.display ++ next }

def commitInPlace (next : List Char) (replaceLast : Bool) : EStateM CalcError Expression Unit := do
  commitSteps (tokenOf (← get).pending) next replaceLast

theorem tokens_pop (e : Expression) : e.pop.tokens = e.tokens.dropLast := by
  obtain hnil | ⟨front, t, htokens⟩ := List.eq_nil_or_concat' e.tokens
  · simp [pop, pop?, hnil]
  · simp [pop, pop?, htokens]

theorem evaluated_pop (e : Expression) : e.pop.evaluated = e.evaluated := by
  cases hlast : e.tokens.getLast? <;> simp [pop, pop?, hlast]

/-- What a commit does. It fails for one of two reasons and then has changed nothing, or puts the
token that the fragment stands for behind the others or in place of the last one. A display that
shows the tokens and a fragment that can be typed does so afterwards. -/
structure CommitsWhole (e : Expression) (next : List Char) (replaceLast : Bool) : Prop where
  malformed_iff : e.commit next replaceLast = .error .malformedFragment ↔
    e.pending = [] ∨ Numeral.read? e.pending = none ∧ 2 ≤ e.pending.length
  unknown_iff : ∀ c, e.commit next replaceLast = .error (.unknownOperator c) ↔
    e.pending = [c] ∧ Numeral.read? [c] = none ∧ c ∉ operatorSymbols ∧ c ∉ operatorAliases
  error_cases : ∀ error, e.commit next replaceLast = .error error →
    error = .malformedFragment ∨ ∃ c, error = .unknownOperator c
  inPlace : (commitInPlace next replaceLast).run e =
    match e.commit next replaceLast with
    | .ok after => .ok () after
    | .error error => .error error e
  parts : ∀ after, e.commit next replaceLast = .ok after → ∃ t : Token, t.ReadFrom e.pending ∧
    after.tokens = e.keptTokens replaceLast ++ [t] ∧ after.pending = next ∧
      after.evaluated = e.evaluated
  showsParts : e.display = e.parts →
    IsLiteral e.pending ∨ (∃ c ∈ operatorSymbols, e.pending = [c]) →
    ∃ t : Token, t.ReadFrom e.pending ∧ t.text = e.pending ∧ e.commit next replaceLast = .ok
      { tokens := e.keptTokens replaceLast ++ [t]
        pending := next
        display := tokensText (e.keptTokens replaceLast ++ [t]) ++ next
        evaluated := e.evaluated }

theorem commit_of_token {e : Expression} {t : Token} (ht : tokenOf e.pending = .ok t)
    (next : List Char) (replaceLast : Bool) : e.commit next replaceLast = .ok
      { tokens := e.keptTokens replaceLast ++ [t]
        pending := next
        display := (if replaceLast then e.pop else e).display ++ next
        evaluated := e.evaluated } := by
  cases replaceLast with
  | false => simp [commit, ht, keptTokens]
  | true => simp [commit, ht, keptTokens, tokens_pop, evaluated_pop]

theorem commit_of_error {e : Expression} {error : CalcError} (h : tokenOf e.pending = .error error)
    (next : List Char) (replaceLast : Bool) : e.commit next replaceLast = .error error := by
  simp only [commit, h]

theorem commit_eq_error_iff {e : Expression} {next : List Char} {replaceLast : Bool}
    {error : CalcError} :
    e.commit next replaceLast = .error error ↔ tokenOf e.pending = .error error := by
  cases ht : tokenOf e.pending with
  | ok t => simp [commit_of_token ht]
  | error _ => simp [commit_of_error ht]

theorem run_commitInPlace (e : Expression) (next : List Char) (replaceLast : Bool) :
    (commitInPlace next replaceLast).run e =
      (commitSteps (tokenOf e.pending) next replaceLast).run e := by
  have hget (f : Expression → EStateM CalcError Expression Unit) :
      (get >>= f).run e = (f e).run e := rfl
  exact hget fun e => commitSteps (tokenOf e.pending) next replaceLast

theorem run_commitSteps_error (e : Expression) (error : CalcError) (next : List Char)
    (replaceLast : Bool) :
    (commitSteps (.error error) next replaceLast).run e = .error error e := rfl

theorem run_commitSteps_ok (e : Expression) (t : Token) (next : List Char) (replaceLast : Bool) :
    (commitSteps (.ok t) next replaceLast).run e = .ok ()
      { tokens := e.keptTokens replaceLast ++ [t]
        pending := next
        display := (if replaceLast then e.pop else e).display ++ next
        evaluated := e.evaluated } := by
  cases replaceLast with
  | false => rfl
  | true =>
    rw [keptTokens, if_pos rfl, ← tokens_pop, ← evaluated_pop]
    rfl

/-- The display without the token that is replaced, in front of the fragment. -/
theorem display_kept {e : Expression} (h : e.display = e.parts) (hne : e.pending ≠ [])
    (replaceLast : Bool) : (if replaceLast then e.pop else e).display =
      tokensText (e.keptTokens replaceLast) ++ e.pending := by
  cases replaceLast with
  | false => exact h
  | true =>
    obtain hnil | ⟨front, t, htokens⟩ := List.eq_nil_or_concat' e.tokens
    · simp [pop, pop?, keptTokens, hnil, h, Expression.parts]
    · have hshown : shown (tokensText front ++ e.pending) = tokensText front ++ e.pending :=
        shown_of_ne_nil (by simp [hne])
      simp [pop_of_display h htokens, keptTokens, htokens, hshown]

/-- Every commit does all of its steps or none. -/
theorem commitsWhole (e : Expression) (next : List Char) (replaceLast : Bool) :
    e.CommitsWhole next replaceLast where
  malformed_iff := by rw [commit_eq_error_iff, tokenOf_eq_malformed_iff]
  unknown_iff c := by rw [commit_eq_error_iff, tokenOf_eq_unknown_iff]
  error_cases error herror := by
    have hreading := reading_tokenOf e.pending
    rw [commit_eq_error_iff.1 herror] at hreading
    cases hreading with
    | malformed _ => exact .inl rfl
    | unknown _ _ _ => exact .inr ⟨_, rfl⟩
  inPlace := by
    cases ht : tokenOf e.pending with
    | error error => rw [commit_of_error ht, run_commitInPlace, ht, run_commitSteps_error]
    | ok t => rw [commit_of_token ht, run_commitInPlace, ht, run_commitSteps_ok]
  parts after hafter := by
    have hreading := reading_tokenOf e.pending
    cases ht : tokenOf e.pending with
    | error error =>
      rw [commit_of_error ht] at hafter
      cases hafter
    | ok t =>
      rw [ht] at hreading
      rw [commit_of_token ht] at hafter
      obtain rfl := Except.ok.inj hafter
      cases hreading with
      | token hfrom => exact ⟨t, hfrom, rfl, rfl, rfl⟩
  showsParts hdisplay hfragment := by
    obtain ⟨t, ht, hfrom, htext⟩ := exists_token hfragment
    have hne : e.pending ≠ [] := by
      obtain hlit | ⟨c, -, hc⟩ := hfragment
      · exact isLiteral_ne_nil hlit
      · simp [hc]
    refine ⟨t, hfrom, htext, ?_⟩
    rw [commit_of_token ht, display_kept hdisplay hne]
    simp [htext]

/-- An operator that nobody knows is refused before the five in front of it is taken away. -/
example : (commitInPlace ['1'] true).run ⟨[.number 5 ['5']], ['^'], ['5', '^'], false⟩ =
    .error (.unknownOperator '^') ⟨[.number 5 ['5']], ['^'], ['5', '^'], false⟩ := rfl

end Expression
end PocketCalc
