import PocketCalc.Evaluation
import PocketCalc.Expression

/-!
# Sessions

A session is an expression with its running subtotal, driven by one character at a time. A key that
makes no sense where it is pressed is ignored; a character that is no key is refused. Neither
changes anything.
-/
namespace PocketCalc

inductive Key where
  | digit (d : Char)
  | point
  | operator (op : Operator)
  | equals
deriving DecidableEq, Repr

namespace Key

def ofChar (c : Char) : Except CalcError Key :=
  if c.isDigit then .ok (.digit c)
  else if c = '.' then .ok .point
  else if c = '=' then .ok .equals
  else (Operator.ofChar c).map .operator

def isDigit : Key → Bool
  | digit _ => true
  | _ => false

end Key

namespace Expression

/-- The text a key starts a number with, if it does. -/
def openingText? : Key → Option (List Char)
  | .digit d => some [d]
  | .operator .minus => some ['-']
  | .point => some ['0', '.']
  | .operator _ | .equals => none

/-- The first key of an expression. -/
def begin (e : Expression) (key : Key) : Expression :=
  match openingText? key with
  | some text => blank.append text
  | none => e

/-- Equals: shows the value of what has been typed. A lone sign adds nothing. -/
def pressEquals (e : Expression) : Except CalcError Expression := do
  let e ← match e.fragmentKind with
    | .empty => pure e
    | .sign => pure (e.replacePending [])
    | .number | .operator _ => e.commit [] false
  let total ← Evaluation.final e.tokens
  pure (ofResult (Format.number total))

/-- A digit extends a number or a sign, and starts a number behind an operator. -/
def pressDigit (e : Expression) (d : Char) : Except CalcError Expression :=
  match e.fragmentKind with
  | .empty | .number | .sign => .ok (e.append [d])
  | .operator _ => e.commit [d] false

/-- A point extends a number that has none, and starts a number with a zero elsewhere. -/
def pressPoint (e : Expression) : Except CalcError Expression :=
  match e.fragmentKind with
  | .number => if '.' ∈ e.pending then .ok e else .ok (e.append ['.'])
  | .empty | .sign => .ok (e.append ['0', '.'])
  | .operator _ => e.commit ['0', '.'] false

/-- A minus subtracts from a number, takes the place of a plus and is the sign of the next number
behind any other operator. -/
def pressMinus (e : Expression) : Except CalcError Expression :=
  match e.fragmentKind with
  | .number => e.commit ['-'] false
  | .operator .plus => .ok (e.replacePending ['-'])
  | .operator _ => e.commit ['-'] false
  | .sign | .empty => .ok e

/-- Any other operator follows a number or takes the place of an operator. -/
def pressOperator (e : Expression) (op : Operator) : Except CalcError Expression :=
  match op.symbol? with
  | none => .error .invalidOperator
  | some symbol =>
    match e.fragmentKind with
    | .number => e.commit [symbol] false
    | .operator _ => .ok (e.replacePending [symbol])
    | .sign | .empty => .ok e

def press (e : Expression) : Key → Except CalcError Expression
  | .equals => e.pressEquals
  | .digit d => e.pressDigit d
  | .point => e.pressPoint
  | .operator .minus => e.pressMinus
  | .operator op => e.pressOperator op

/-- Whether the fragment is a number that is neither infinite nor undefined. -/
def isFinite (e : Expression) : Bool := e.pendingValue?.any Float.isFinite

/-- A key after a result: a finite result is the first number of the next expression, unless a digit
starts a new one. Anything else is dropped. -/
def carriesOver (e : Expression) (key : Key) : Bool :=
  e.evaluated && !key.isDigit && e.isFinite

/-- The expression a key acts on: a result is edited as a number or dropped. -/
def prepare (e : Expression) (key : Key) : Expression :=
  if e.evaluated then
    if e.carriesOver key then { e with evaluated := false } else blank
  else e

def step (e : Expression) (key : Key) : Except CalcError Expression :=
  let ready := e.prepare key
  if ready.display = emptyDisplay ∧ e.carriesOver key = false then .ok (ready.begin key)
  else ready.press key

/-- The running total of the tokens, empty when there are none. -/
def subtotal (e : Expression) : List Char :=
  if e.tokens = [] then []
  else
    match Evaluation.current e.tokens with
    | .ok value => Format.number value
    | .error _ => []

end Expression

structure Session where
  expression : Expression
  subtotal : List Char
deriving DecidableEq

structure Readout where
  main : List Char
  subtotal : List Char
deriving DecidableEq

namespace Session

def fresh : Session := ⟨.blank, []⟩

/-- The session of an expression, with the subtotal brought up to date. -/
def ofExpression (e : Expression) : Session := ⟨e, e.subtotal⟩

def mainText (s : Session) : List Char := s.expression.display

def readout (s : Session) : Readout := ⟨s.mainText, s.subtotal⟩

/-- One character, with the reason when it is refused. -/
def ingest (s : Session) (c : Char) : Session × Option CalcError :=
  match Key.ofChar c with
  | .error error => (s, some error)
  | .ok key =>
    match s.expression.step key with
    | .ok e => (ofExpression e, none)
    | .error error => (ofExpression (s.expression.prepare key), some error)

def type (s : Session) (c : Char) : Session := (s.ingest c).1

/-- The session after several characters, those refused being skipped. -/
def typeAll (s : Session) (keys : List Char) : Session := keys.foldl type s

/-- Takes back the last character. A result that is no finite number is taken back as a whole. -/
def undo (s : Session) : Session :=
  let e := s.expression
  if e.evaluated && !e.isFinite then ofExpression .blank
  else ofExpression { e.undo with evaluated := false }

def reset (_ : Session) : Session := ofExpression .blank

@[simp] theorem typeAll_nil (s : Session) : s.typeAll [] = s := rfl

@[simp] theorem typeAll_append (s : Session) (a b : List Char) :
    s.typeAll (a ++ b) = (s.typeAll a).typeAll b := by simp [typeAll]

end Session
end PocketCalc
