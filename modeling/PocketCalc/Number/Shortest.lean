import PocketCalc.Number.Binary64

/-!
# Shortest decimals

The digits shown for a magnitude are the fewest that still read back as the same magnitude, and of
those the nearest to it. All finite magnitudes are multiples of `10 ^ (-1074)`, called *grains*
here, so the search compares natural numbers. Grid `j` holds the multiples of `10 ^ j` grains: it is
searched from coarse to fine, and grid zero holds every magnitude.
-/
namespace PocketCalc.Shortest
open Binary64

/-- The count of decimal places of a grain. -/
def places : Nat := 1074

/-- The magnitude at position `p` in grains. -/
def grains (p : Nat) : Nat := units p * Nat.pow 5 places

@[simp] theorem grains_zero : grains 0 = 0 := by simp [grains]

/-- Whether `w` grains round to position `p`: they lie between the midpoints to the two neighbours.
A midpoint itself belongs to the even position. -/
def roundsTo (p w : Nat) : Bool :=
  let low := grains (p - 1) + grains p
  let high := grains p + grains (p + 1)
  if p % 2 = 0 then low ≤ 2 * w ∧ 2 * w ≤ high else low < 2 * w ∧ 2 * w < high

/-- The multiple of `10 ^ j` grains that rounds to position `p` and is nearest to it, as a count of
steps. Only the two neighbours on the grid need a look, and a tie goes to the upper one. -/
def onGrid (p j : Nat) : Option Nat :=
  let step := Nat.pow 10 j
  let n := grains p / step
  let lower := roundsTo p (n * step)
  let upper := roundsTo p ((n + 1) * step)
  if upper ∧ (lower = false ∨ step ≤ 2 * (grains p % step)) then some (n + 1)
  else if lower then some n
  else none

/-- The first hit on the grids from `j` downward, with the grid it lies on. -/
def search (p : Nat) : Nat → Nat × Nat
  | 0 => (grains p, 0)
  | j + 1 =>
    match onGrid p (j + 1) with
    | some n => (n, j + 1)
    | none => search p j

/-- A grid coarser than twice the magnitude at position `p`: `2 ^ 93` is below `10 ^ 28`. -/
def coarsest (p : Nat) : Nat := ((grains p).log2 + 2) * 28 / 93 + 1

/-- The shortest decimal of the magnitude at position `p` as digits and grid. -/
def shortest (p : Nat) : Nat × Nat := search p (coarsest p)

/-- Decimal digits of `n` with zeros in front up to a given length. -/
def padded (length n : Nat) : List Char :=
  let digits := Nat.toDigits 10 n
  List.replicate (length - digits.length) '0' ++ digits

/-- The text of `n * 10 ^ j` grains without a power of ten. -/
def positional (n j : Nat) : List Char :=
  if places ≤ j then Nat.toDigits 10 (n * Nat.pow 10 (j - places))
  else
    let unit := Nat.pow 10 (places - j)
    Nat.toDigits 10 (n / unit) ++ '.' :: padded (places - j) (n % unit)

/-- The shortest text that reads back as the magnitude at position `p`. -/
def text (p : Nat) : List Char :=
  if p = 0 then ['0'] else positional (shortest p).1 (shortest p).2

end PocketCalc.Shortest
