import PocketCalc.Evaluation
import PocketCalc.Proofs.Draft

/-!
# Totals

Tokens that alternate have a value, with or without an operator at the end. The value of an
expression of numbers and operators is the left fold over its pairs of an operator and a number.
While it is typed it comes to the same: the short way with one or two tokens only misses that the
second of two numbers is out of place.
-/
namespace PocketCalc.Evaluation

theorem exists_foldPairs (total : Float) {index : Nat} {tokens : List Token} (hodd : index % 2 = 1)
    (h : ∀ (i : Nat) (t : Token), tokens[i]? = some t → t.Fits (index + i)) :
    ∃ value, foldPairs total index tokens = .ok value := by
  fun_induction foldPairs total index tokens with
  | case1 total index => exact ⟨total, rfl⟩
  | case2 total index value literal rest =>
    have hfits : index % 2 = 0 := (h 0 _ rfl).1
    omega
  | case3 total index op => exact ⟨total, rfl⟩
  | case4 total index op next rest =>
    have hfits : (index + 1) % 2 = 1 := (h 1 _ rfl).1
    omega
  | case5 total index op value literal rest result happly ih =>
    refine ih (by omega) fun i t ht => ?_
    rw [show index + 2 + i = index + (i + 2) by omega]
    exact h (i + 2) t (by simpa using ht)
  | case6 total index op value literal rest e happly =>
    have hfits : op ≠ .placeholder := (h 0 _ rfl).2
    exact absurd (Operator.apply_eq_error_iff.1 happly).1 hfits

theorem exists_final {tokens : List Token} (h : Alternating tokens) :
    ∃ value, final tokens = .ok value := by
  match tokens with
  | [] => exact ⟨0, rfl⟩
  | .operator op :: rest =>
    have hfits : 0 % 2 = 1 := (h 0 _ rfl).1
    omega
  | .number value literal :: rest =>
    have hrest : ∃ total, foldPairs value 1 rest = .ok total := by
      refine exists_foldPairs value rfl fun i t ht => ?_
      rw [Nat.add_comm]
      exact h (i + 1) t (by simpa using ht)
    exact hrest

def IsTwoNumbers (tokens : List Token) : Prop :=
  ∃ first literal second literal', tokens = [.number first literal, .number second literal']

/-- The second of two numbers is only looked at when the expression is finished. -/
theorem current_final_of_two_numbers (first second : Float) (literal literal' : List Char) :
    current [.number first literal, .number second literal'] = .ok first ∧
      final [.number first literal, .number second literal'] = .error (.unexpectedToken 1) :=
  ⟨rfl, rfl⟩

/-- While it is typed an expression comes to the same as when it is finished, unless
it is two numbers. -/
theorem current_eq_final_iff (tokens : List Token) :
    current tokens = final tokens ↔ ¬IsTwoNumbers tokens := by
  match tokens with
  | [] => simp [IsTwoNumbers, current, final]
  | [.number _ _] => simp [IsTwoNumbers, current, final, leadingNumber, foldPairs]
  | [.operator _] => simp [IsTwoNumbers, current, final, leadingNumber]
  | [.operator _, _] => simp [IsTwoNumbers, current, final, leadingNumber]
  | [.number _ _, .operator _] => simp [IsTwoNumbers, current, final, leadingNumber, foldPairs]
  | [.number first literal, .number second literal'] =>
    obtain ⟨hcurrent, hfinal⟩ := current_final_of_two_numbers first second literal literal'
    simp [IsTwoNumbers, hcurrent, hfinal]
  | _ :: _ :: _ :: _ => simp [IsTwoNumbers, current]

/-- While it is typed an alternating expression has the same value as when it is finished. -/
theorem current_eq_final {tokens : List Token} (h : Alternating tokens) :
    current tokens = final tokens := by
  refine (current_eq_final_iff tokens).2 ?_
  rintro ⟨first, literal, second, literal', rfl⟩
  have hfits : 1 % 2 = 0 := (h 1 _ rfl).1
  omega

end PocketCalc.Evaluation
