import PocketCalc.Text.Quoted

/-!
# Errors

What can go wrong in a calculation. Only an unknown character comes from outside; the other causes
mean that the calculator handed itself something it should not have made.
-/
namespace PocketCalc

/-- Why a key or a list of tokens is refused. A fragment is malformed if it is empty, or neither a
number nor a single character. A token is unexpected if it is a number where an operator is due, or
the other way round. -/
inductive CalcError where
  | unknownOperator (c : Char)
  | malformedFragment
  | invalidOperator
  | unexpectedToken (index : Nat)
deriving DecidableEq, Repr

namespace CalcError

/-- Whether the error is the calculator's own fault. -/
def isDefect : CalcError → Bool
  | unknownOperator _ => false
  | _ => true

def message : CalcError → List Char
  | unknownOperator c => "Unknown operator: ".toList ++ Text.quoted c
  | malformedFragment => "Cannot commit an empty fragment".toList
  | invalidOperator => "Operator has no arithmetic meaning".toList
  | unexpectedToken index =>
    "Token at index ".toList ++ Nat.toDigits 10 index ++
      " breaks number/operator alternation".toList

end CalcError
end PocketCalc
