/-!
# Sets of characters

A property of characters is stored as the ranges of code points that have it, in ascending order.
The look-up stops at the first range beyond the code point.
-/
namespace PocketCalc.Text

/-- Closed ranges of code points in ascending order. -/
abbrev Ranges := List (Nat × Nat)

def Ranges.contains : Ranges → Nat → Bool
  | [], _ => false
  | (first, last) :: rest, code =>
    if code < first then false else if code ≤ last then true else Ranges.contains rest code

def Ranges.has (ranges : Ranges) (c : Char) : Bool := ranges.contains c.toNat

end PocketCalc.Text
