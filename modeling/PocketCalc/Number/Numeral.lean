import PocketCalc.Number.Binary64

/-!
# Reading numbers

The text of a number is an optional sign followed by decimal digits with at most one point and an
optional power of ten, or by one of the words for infinity and for an undefined result in any letter
case. The number read is the one nearest to the decimal value. Blanks and digit separators are
refused.
-/
namespace PocketCalc.Numeral

def digitsValue (digits : List Char) : Nat :=
  digits.foldl (fun value c => 10 * value + (c.toNat - '0'.toNat)) 0

@[simp] theorem digitsValue_nil : digitsValue [] = 0 := rfl

@[simp] theorem digitsValue_append_singleton (digits : List Char) (c : Char) :
    digitsValue (digits ++ [c]) = 10 * digitsValue digits + (c.toNat - '0'.toNat) := by
  simp [digitsValue]

/-- Splits off a leading sign. The flag tells whether it was a minus. -/
def splitSign : List Char → Bool × List Char
  | '-' :: rest => (true, rest)
  | '+' :: rest => (false, rest)
  | text => (false, text)

/-- The power of ten at the end of a numeral, zero when nothing is left of the text. -/
def exponent? : List Char → Option Int
  | [] => some 0
  | e :: rest =>
    let (negative, digits) := splitSign rest
    if (e = 'e' ∨ e = 'E') ∧ digits ≠ [] ∧ digits.all Char.isDigit then
      some (if negative then -(digitsValue digits : Int) else digitsValue digits)
    else none

/-- The digits after the point and the text behind them. -/
def splitFraction : List Char → List Char × List Char
  | '.' :: rest => (rest.takeWhile Char.isDigit, rest.dropWhile Char.isDigit)
  | text => ([], text)

/-- An unsigned decimal as its digits and a power of ten: `12.5e3` is `(125, 2)`. -/
def decimal? (text : List Char) : Option (Nat × Int) :=
  let whole := text.takeWhile Char.isDigit
  let (fraction, rest) := splitFraction (text.dropWhile Char.isDigit)
  if whole = [] ∧ fraction = [] then none
  else (exponent? rest).map fun e => (digitsValue (whole ++ fraction), e - fraction.length)

/-- The position nearest to `digits * 10 ^ e`. Magnitudes that are certainly out of range, or
certainly below half a unit, are settled without raising ten to their power. -/
def decimalPosition (digits : Nat) (e : Int) : Nat :=
  if digits = 0 then 0
  else if 400 < e then Binary64.infinityPosition
  else if e < -(digits.log2 + 401) then 0
  else if 0 ≤ e then Binary64.nearestPosition (digits * Nat.pow 10 e.toNat * Nat.pow 2 1074) 1
  else Binary64.nearestPosition (digits * Nat.pow 2 1074) (Nat.pow 10 (-e).toNat)

/-- The result of an operation without a defined value. -/
def undefinedNumber : Float := Float.ofBits 0x7ff8000000000000

/-- The number a text stands for. -/
def read? (text : List Char) : Option Float :=
  let (negative, body) := splitSign text
  let word := body.map Char.toLower
  if word = ['i', 'n', 'f'] ∨ word = ['i', 'n', 'f', 'i', 'n', 'i', 't', 'y'] then
    some (Binary64.ofPosition negative Binary64.infinityPosition)
  else if word = ['n', 'a', 'n'] then some undefinedNumber
  else
    (decimal? body).map fun (digits, e) =>
      Binary64.ofPosition negative (decimalPosition digits e)

end PocketCalc.Numeral
