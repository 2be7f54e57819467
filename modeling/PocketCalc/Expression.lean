import PocketCalc.Number.Numeral
import PocketCalc.Text.Cluster
import PocketCalc.Token

/-!
# Expressions

An expression under construction: its tokens, the fragment being typed and the text on the display.
As long as texts are numbers and operators the display is the text of the tokens followed by the
fragment, or `0` when there is neither. The operations edit the display in place, at offsets counted
in bytes.
-/
namespace PocketCalc

def emptyDisplay : List Char := ['0']

/-- An expression under construction. It counts as evaluated while the display shows a result. -/
structure Expression where
  tokens : List Token
  pending : List Char
  display : List Char
  evaluated : Bool
deriving DecidableEq

/-- What the fragment being typed holds. A sign is a lone minus that begins a negative number. -/
inductive FragmentKind where
  | empty
  | number
  | sign
  | operator (op : Operator)
deriving DecidableEq, Repr

def byteLength : List Char → Nat
  | [] => 0
  | c :: rest => c.utf8Size + byteLength rest

@[simp] theorem byteLength_append (a b : List Char) :
    byteLength (a ++ b) = byteLength a + byteLength b := by
  induction a with
  | nil => simp [byteLength]
  | cons c rest ih => simp [byteLength, ih, Nat.add_assoc]

/-- Cuts a text after the given number of bytes, unless that is inside a character
or beyond the end. -/
def splitAtByte? (n : Nat) : List Char → Option (List Char × List Char)
  | [] => if n = 0 then some ([], []) else none
  | c :: rest =>
    if n = 0 then some ([], c :: rest)
    else if c.utf8Size ≤ n then
      (splitAtByte? (n - c.utf8Size) rest).map fun (front, back) => (c :: front, back)
    else none

@[simp] theorem splitAtByte?_append (front back : List Char) :
    splitAtByte? (byteLength front) (front ++ back) = some (front, back) := by
  induction front with
  | nil => cases back <;> simp [byteLength, splitAtByte?]
  | cons c rest ih =>
    have hc : 0 < c.utf8Size := c.utf8Size_pos
    have hb : byteLength (c :: rest) = c.utf8Size + byteLength rest := by simp [byteLength]
    have hn : byteLength (c :: rest) ≠ 0 := by omega
    rw [List.cons_append, splitAtByte?, if_neg hn, if_pos (by omega), hb,
      Nat.add_sub_cancel_left, ih]
    rfl

/-- A text without a given end. -/
def dropSuffix? (suffix text : List Char) : Option (List Char) :=
  if suffix <:+ text then some (text.take (text.length - suffix.length)) else none

@[simp] theorem dropSuffix?_append (front suffix : List Char) :
    dropSuffix? suffix (front ++ suffix) = some front := by
  simp [dropSuffix?]

/-- A display that would be empty shows zero. -/
def shown (display : List Char) : List Char := if display = [] then emptyDisplay else display

namespace Expression

def blank : Expression := ⟨[], [], emptyDisplay, false⟩

/-- Whether nothing has been typed since the last reset. -/
def isBlank (e : Expression) : Bool :=
  e.tokens = [] && e.pending = [] && e.display = emptyDisplay

def pendingValue? (e : Expression) : Option Float := Numeral.read? e.pending

/-- What a fragment holds behind the given tokens. A minus is an operator only behind a number. -/
def kindOf (tokens : List Token) : List Char → FragmentKind
  | [] => .empty
  | ['-'] => if tokens.getLast?.any Token.isNumber then .operator .minus else .sign
  | [c] =>
    match Operator.ofSymbol? c with
    | some op => if op.symbol? = some c then .operator op else .number
    | none => .number
  | _ => .number

def fragmentKind (e : Expression) : FragmentKind := kindOf e.tokens e.pending

def append (e : Expression) (text : List Char) : Expression :=
  { e with
    display := if e.isBlank then text else e.display ++ text
    pending := e.pending ++ text }

/-- The token a fragment stands for: a number if it can be read as one, and otherwise the operator
of a single character. -/
def tokenOf (fragment : List Char) : Except CalcError Token :=
  match fragment, Numeral.read? fragment with
  | [], _ => .error .malformedFragment
  | fragment, some value => .ok (.number value fragment)
  | [c], none => (Operator.ofChar c).map .operator
  | _, none => .error .malformedFragment

/-- The display up to the fragment. Nothing is left of a display shorter than the fragment, as the
difference of their lengths then counts as zero, and a display that would be cut inside a character
is kept whole. A program that subtracts machine words stops or wraps around in the first case and
may stop in the second. No display that shows the tokens and the fragment comes to either. -/
def committedDisplay (e : Expression) : List Char :=
  match splitAtByte? (byteLength e.display - byteLength e.pending) e.display with
  | some (front, _) => front
  | none => e.display

def replacePending (e : Expression) (text : List Char) : Expression :=
  { e with
    display := shown (e.committedDisplay ++ text)
    pending := text }

/-- The display without the text of a token in front of the fragment. A display that does not show
the token there stays as it is, and so does one that is shorter than the fragment or would be cut
inside a character. A program that subtracts machine words may stop on a display that is too short,
which none is that shows the tokens and the fragment. -/
def displayWithout (e : Expression) (t : Token) : List Char :=
  match splitAtByte? (byteLength e.display - byteLength e.pending) e.display with
  | some (front, back) =>
    match dropSuffix? t.text front with
    | some front => front ++ back
    | none => e.display
  | none => e.display

/-- The last token, and the expression without it. -/
def pop? (e : Expression) : Option (Token × Expression) :=
  e.tokens.getLast?.map fun t =>
    (t, { e with tokens := e.tokens.dropLast, display := shown (e.displayWithout t) })

def pop (e : Expression) : Expression :=
  match e.pop? with
  | some (_, rest) => rest
  | none => e

/-- Turns the fragment into a token and starts the next one. With `replaceLast` the new token takes
the place of the one in front. -/
def commit (e : Expression) (next : List Char) (replaceLast : Bool) : Except CalcError Expression :=
  match tokenOf e.pending with
  | .error error => .error error
  | .ok t =>
    let e := if replaceLast then e.pop else e
    .ok { e with
      tokens := e.tokens ++ [t]
      pending := next
      display := e.display ++ next }

/-- An expression that shows a result and nothing else. -/
def ofResult (text : List Char) : Expression := ⟨[], text, text, true⟩

/-- Takes back the last character on the display. When that empties the fragment, the last token is
the fragment again. -/
def undo (e : Expression) : Expression :=
  if e.display = emptyDisplay then e
  else
    match Text.splitLastCluster? e.display with
    | none | some ([], _) => blank
    | some (front, last) =>
      let e := { e with display := front, pending := (dropSuffix? last e.pending).getD [] }
      match e.pending, e.tokens.getLast? with
      | [], some t => { e with tokens := e.tokens.dropLast, pending := t.text }
      | _, _ => e

end Expression
end PocketCalc
