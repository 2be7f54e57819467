/-!
# Numbers in binary

A calculator number is a `Float`. Its lower 63 bits, read as a natural number, are its *position*:
positions run from zero through all finite magnitudes in ascending order up to infinity. The
magnitude at a position is a whole count of *units*, a unit being the smallest positive number `2 ^
(-1074)`. Every question about size and rounding is therefore settled in natural numbers.
-/
namespace PocketCalc.Binary64

/-- The position of infinity, one past the last finite magnitude. -/
def infinityPosition : Nat := 2047 * Nat.pow 2 52

/-- Whether the sign bit is set. It is set for negative zero too. -/
def isNegative (x : Float) : Bool := decide (Nat.pow 2 63 ≤ x.toBits.toNat)

/-- The place of the magnitude of `x` among all magnitudes. -/
def position (x : Float) : Nat := x.toBits.toNat % Nat.pow 2 63

def ofPosition (negative : Bool) (p : Nat) : Float :=
  Float.ofBits (UInt64.ofNat (if negative then Nat.pow 2 63 + p else p))

/-- Neighbouring magnitudes at position `p` are `2 ^ spacing p` units apart. -/
def spacing (p : Nat) : Nat := p / Nat.pow 2 52 - 1

/-- The count of spacings in the magnitude at position `p`. -/
def significand (p : Nat) : Nat := p - spacing p * Nat.pow 2 52

/-- The magnitude at position `p` in units. At `infinityPosition` it is the first
one out of range. -/
def units (p : Nat) : Nat := significand p * Nat.pow 2 (spacing p)

@[simp] theorem units_zero : units 0 = 0 := by decide

/-- The whole number nearest to `num / den`. A half goes to the even neighbour. -/
def roundHalfEven (num den : Nat) : Nat :=
  if 2 * (num % den) < den then num / den
  else if den < 2 * (num % den) then num / den + 1
  else num / den + num / den % 2

/-- The position nearest to the magnitude of `num / den` units. The spacing is the one
that leaves 53 binary digits, or a single unit for small magnitudes, and what is out
of range becomes infinity. -/
def nearestPosition (num den : Nat) : Nat :=
  let s := (num / den).log2 - 52
  min (s * Nat.pow 2 52 + roundHalfEven num (den * Nat.pow 2 s)) infinityPosition

end PocketCalc.Binary64
