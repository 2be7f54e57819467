import PocketCalc.Number.Format
import PocketCalc.Operator

/-!
# Tokens

An expression is a list of tokens: numbers and operators. A number keeps the text it was typed as,
so that `5.0` can be edited again as it stood.
-/
namespace PocketCalc

/-- A finished part of an expression. -/
inductive Token where
  | number (value : Float) (literal : List Char)
  | operator (op : Operator)
deriving DecidableEq

namespace Token

/-- The number token that is written as its value is shown. -/
def ofValue (value : Float) : Token := number value (Format.number value)

def value? : Token → Option Float
  | number value _ => some value
  | operator _ => none

def operator? : Token → Option Operator
  | number _ _ => none
  | operator op => some op

def isNumber : Token → Bool
  | number _ _ => true
  | operator _ => false

def isOperator (t : Token) : Bool := !t.isNumber

def text : Token → List Char
  | number _ literal => literal
  | operator op => op.text

@[simp] theorem value?_isSome (t : Token) : t.value?.isSome = t.isNumber := by cases t <;> rfl

@[simp] theorem operator?_isSome (t : Token) : t.operator?.isSome = t.isOperator := by
  cases t <;> rfl

end Token
end PocketCalc
