import PocketCalc.Token

/-!
# Evaluation

Tokens are evaluated from left to right. There is no precedence, and an operator without a number
behind it is ignored. A list that does not alternate between numbers and operators is refused at the
first token out of place.
-/
namespace PocketCalc.Evaluation

/-- The value of a token that has to be the first number. -/
def leadingNumber : Token → Except CalcError Float
  | .number value _ => .ok value
  | .operator _ => .error (.unexpectedToken 0)

/-- Folds pairs of an operator and a number onto a value. The index is that of the first token. -/
def foldPairs (total : Float) (index : Nat) : List Token → Except CalcError Float
  | [] => .ok total
  | .number _ _ :: _ => .error (.unexpectedToken index)
  | [.operator _] => .ok total
  | .operator _ :: .operator _ :: _ => .error (.unexpectedToken (index + 1))
  | .operator op :: .number value _ :: rest =>
    match op.apply total value with
    | .ok total => foldPairs total (index + 2) rest
    | .error e => .error e

/-- The value of a finished expression, zero for an empty one. -/
def final : List Token → Except CalcError Float
  | [] => .ok 0
  | first :: rest =>
    match leadingNumber first with
    | .ok total => foldPairs total 1 rest
    | .error e => .error e

/-- The value of an expression that is still being typed. One number, with or without an operator
behind it, is its own value. -/
def current : List Token → Except CalcError Float
  | [] => .ok 0
  | [first] => leadingNumber first
  | [first, _] => leadingNumber first
  | tokens => final tokens

end PocketCalc.Evaluation
