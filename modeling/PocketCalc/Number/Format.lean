import PocketCalc.Number.Shortest

/-!
# Showing numbers

Whole numbers below `2 ^ 53` are shown as integers, so both zeros are `0`. Every other finite number
is shown by its shortest decimal, never with a power of ten. Results that are not finite have fixed
texts.
-/
namespace PocketCalc.Format
open Binary64

def nanText : List Char := ['N', 'a', 'N']

def infinityText : List Char := ['I', 'n', 'f', 'i', 'n', 'i', 't', 'y']

def negativeInfinityText : List Char := '-' :: infinityText

def integer (negative : Bool) (n : Nat) : List Char :=
  if negative ∧ n ≠ 0 then '-' :: Nat.toDigits 10 n else Nat.toDigits 10 n

/-- The text of a finite number by its shortest decimal. -/
def decimal (x : Float) : List Char :=
  if isNegative x then '-' :: Shortest.text (position x) else Shortest.text (position x)

/-- Whether `x` is a whole number among those that are all representable. -/
def isSafeInteger (x : Float) : Bool :=
  units (position x) % Nat.pow 2 1074 = 0 ∧ units (position x) < Nat.pow 2 53 * Nat.pow 2 1074

def number (x : Float) : List Char :=
  if x.isNaN then nanText
  else if x.isInf then (if isNegative x then negativeInfinityText else infinityText)
  else if isSafeInteger x then integer (isNegative x) (units (position x) / Nat.pow 2 1074)
  else decimal x

end PocketCalc.Format
