import PocketCalc.Proofs.Synonyms

/-!
# Typing an expression

An expression is a numeral and any number of terms, each an operator key with the numeral behind it.
What is kept of it is a draft with the same numbers and operators, and equals shows the left fold
over them. An operator at the end is ignored, and so is an operator with a sign behind it.
-/
namespace PocketCalc

/-- An operator key and the numeral behind it. Behind a plus it has no sign. -/
structure Term where
  key : Char
  op : Operator
  operand : Literal
  ofSymbol?_key : Operator.ofSymbol? key = some op
  unsigned : op = .plus → operand.negative = false

/-- The value of an expression from left to right, without precedence. -/
def leftToRight (first : Literal) (terms : List Term) : Except CalcError Float :=
  terms.foldlM (fun total t => t.op.apply total t.operand.value) first.value

def typed (first : Literal) (terms : List Term) : List Char :=
  first.text ++ terms.flatMap fun t => t.key :: t.operand.text

def termTokens (terms : List Term) : List Token :=
  terms.flatMap fun t => [.operator t.op, .number t.operand.value t.operand.text]

/-- The tokens of an expression. -/
def formula (first : Literal) (terms : List Term) : List Token :=
  .number first.value first.text :: termTokens terms

theorem formula_append_singleton (first : Literal) (terms : List Term) (t : Term) :
    formula first (terms ++ [t]) =
      formula first terms ++ [.operator t.op, .number t.operand.value t.operand.text] := by
  simp [formula, termTokens]

namespace Evaluation

/-- Folding the tokens of terms is folding the terms, even with an operator behind them. -/
theorem foldPairs_terms (total : Float) (index : Nat) (terms : List Term)
    (dangling : Option Operator) :
    foldPairs total index (termTokens terms ++ dangling.toList.map .operator) =
        terms.foldlM (fun total t => t.op.apply total t.operand.value) total := by
  induction terms generalizing total index with
  | nil => cases dangling <;> rfl
  | cons t rest ih =>
    simp only [termTokens, List.flatMap_cons, List.cons_append, List.nil_append, List.foldlM_cons,
      foldPairs]
    cases t.op.apply total t.operand.value with
    | ok next => exact ih next (index + 2)
    | error e => rfl

theorem final_formula (first : Literal) (terms : List Term) (dangling : Option Operator) :
    final (formula first terms ++ dangling.toList.map .operator) = leftToRight first terms :=
  foldPairs_terms first.value 1 terms dangling

end Evaluation

namespace Draft

end Draft

namespace Session

end Session
end PocketCalc
