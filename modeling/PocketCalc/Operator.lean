import PocketCalc.CalcError

/-!
# Operators

The operators of the calculator, the symbols that show them and the keys that stand for them.
-/
namespace PocketCalc

/-- An operator between two numbers. The placeholder has neither a symbol nor a value. -/
inductive Operator where
  | plus
  | minus
  | times
  | divide
  | percent
  | placeholder
deriving DecidableEq, Repr

namespace Operator

def symbol? : Operator → Option Char
  | plus => some '+'
  | minus => some '-'
  | times => some '×'
  | divide => some '÷'
  | percent => some '%'
  | placeholder => none

/-- What holds of the five operators with their symbols holds of every operator with a symbol. -/
@[elab_as_elim] theorem symbol_cases {motive : Operator → Char → Prop} (plus : motive plus '+')
    (minus : motive minus '-') (times : motive times '×') (divide : motive divide '÷')
    (percent : motive percent '%') {op : Operator} {c : Char} (h : op.symbol? = some c) :
    motive op c := by
  cases op with
  | plus => exact Option.some.inj h ▸ plus
  | minus => exact Option.some.inj h ▸ minus
  | times => exact Option.some.inj h ▸ times
  | divide => exact Option.some.inj h ▸ divide
  | percent => exact Option.some.inj h ▸ percent
  | placeholder => cases h

/-- The operator a character stands for: its symbol, or a plain letter or sign of a keyboard. -/
def ofSymbol? : Char → Option Operator
  | '+' => some plus
  | '-' => some minus
  | '×' | '*' | 'x' => some times
  | '÷' | '/' => some divide
  | '%' => some percent
  | _ => none

/-- The operator a character stands for, with the reason when there is none. -/
def ofChar (c : Char) : Except CalcError Operator :=
  match ofSymbol? c with
  | some op => .ok op
  | none => .error (.unknownOperator c)

theorem ofSymbol?_of_symbol? {op : Operator} {c : Char} (h : op.symbol? = some c) :
    ofSymbol? c = some op := by
  refine symbol_cases ?_ ?_ ?_ ?_ ?_ h <;> rfl

/-- Whether a character is the symbol of an operator, and not just a key for it. -/
def isSymbol (c : Char) : Bool :=
  match ofSymbol? c with
  | some op => op.symbol? = some c
  | none => false

@[simp] theorem isSymbol_iff {c : Char} :
    isSymbol c = true ↔ ∃ op : Operator, op.symbol? = some c := by
  constructor
  · intro h
    unfold isSymbol at h
    split at h
    · exact ⟨_, of_decide_eq_true h⟩
    · exact absurd h (by decide)
  · rintro ⟨op, h⟩
    simp [isSymbol, ofSymbol?_of_symbol? h, h]

/-- The text of the operator, empty for the placeholder. -/
def text (op : Operator) : List Char := op.symbol?.toList

/-- The value of the operator on two numbers. Division by zero is no failure: it gives an infinity
or an undefined result. The placeholder has no value. -/
def apply (op : Operator) (lhs rhs : Float) : Except CalcError Float :=
  match op with
  | plus => .ok (lhs + rhs)
  | minus => .ok (lhs - rhs)
  | times => .ok (lhs * rhs)
  | divide => .ok (lhs / rhs)
  | percent => .ok (lhs / rhs * 100)
  | placeholder => .error .invalidOperator

/-- The placeholder alone has no value. -/
theorem apply_eq_error_iff {op : Operator} {lhs rhs : Float} {e : CalcError} :
    op.apply lhs rhs = .error e ↔ op = placeholder ∧ e = .invalidOperator := by
  cases op <;> simp [apply, eq_comm]

end Operator
end PocketCalc
