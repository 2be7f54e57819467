import Mathlib.Data.Nat.Find
import Mathlib.Order.Bounds.Basic
import PocketCalc.Evaluation

/-!
# Tokens out of place

Numbers belong at even places and operators at odd ones. Evaluation reads tokens from the left and
fails at the first one out of place, unless it has applied the placeholder before. If neither
happens, the value is the left fold over the pairs of an operator and a number, and an operator at
the end is not looked at.
-/
namespace PocketCalc

/-- Whether a token is of the kind that belongs at a place. -/
def Token.InPlace (i : Nat) (t : Token) : Prop := t.isNumber = true ↔ i % 2 = 0

@[simp] theorem Token.inPlace_number {i : Nat} {value : Float} {literal : List Char} :
    (number value literal).InPlace i ↔ i % 2 = 0 := by simp [InPlace, isNumber]

@[simp] theorem Token.inPlace_operator {i : Nat} {op : Operator} :
    (operator op).InPlace i ↔ i % 2 = 1 := by simp [InPlace, isNumber]

namespace Evaluation

/-- Whether a token is out of place, when the first one is at place `start`. -/
def Misplaced (start : Nat) (tokens : List Token) (i : Nat) : Prop :=
  ∃ t, tokens[i]? = some t ∧ ¬t.InPlace (start + i)

/-- Whether a placeholder has an operand behind it, and both come before the first
token out of place. -/
def AppliesPlaceholder (start : Nat) (tokens : List Token) : Prop :=
  ∃ j, (start + j) % 2 = 1 ∧ tokens[j]? = some (.operator .placeholder) ∧ j + 1 < tokens.length ∧
    ∀ b, IsLeast {i | Misplaced start tokens i} b → j + 1 < b

def leftFold (total : Float) (tokens : List Token) : Except CalcError Float :=
  ((tokens.filterMap Token.operator?).zip (tokens.filterMap Token.value?)).foldlM
    (fun total (op, value) => op.apply total value) total

@[simp] theorem not_misplaced_nil {start i : Nat} : ¬Misplaced start [] i := by simp [Misplaced]

@[simp] theorem misplaced_cons_zero {start : Nat} {t : Token} {rest : List Token} :
    Misplaced start (t :: rest) 0 ↔ ¬t.InPlace start := by simp [Misplaced]

@[simp] theorem misplaced_cons_succ {start i : Nat} {t : Token} {rest : List Token} :
    Misplaced start (t :: rest) (i + 1) ↔ Misplaced (start + 1) rest i := by
  have hplace : start + (i + 1) = start + 1 + i := by omega
  simp [Misplaced, hplace]

theorem isLeast_zero {start : Nat} {tokens : List Token} (h : Misplaced start tokens 0) :
    IsLeast {i | Misplaced start tokens i} 0 := ⟨h, fun _ _ => Nat.zero_le _⟩

theorem isLeast_cons_succ {start b : Nat} {t : Token} {rest : List Token} (ht : t.InPlace start) :
    IsLeast {i | Misplaced start (t :: rest) i} (b + 1) ↔
      IsLeast {i | Misplaced (start + 1) rest i} b := by
  constructor
  · rintro ⟨hb, hleast⟩
    refine ⟨misplaced_cons_succ.1 hb, fun i hi => ?_⟩
    exact Nat.le_of_succ_le_succ (hleast (misplaced_cons_succ.2 hi))
  · rintro ⟨hb, hleast⟩
    refine ⟨misplaced_cons_succ.2 hb, fun i hi => ?_⟩
    cases i with
    | zero => exact absurd ht (misplaced_cons_zero.1 hi)
    | succ i => exact Nat.succ_le_succ (hleast (misplaced_cons_succ.1 hi))

/-- Nothing up to a place is out of place if the first token out of place, if there
is one, comes later. -/
theorem forall_isLeast_lt_iff {p : Nat → Prop} {n : Nat} :
    (∀ b, IsLeast {i | p i} b → n < b) ↔ ∀ i ≤ n, ¬p i := by
  classical
  constructor
  · intro h i hi hp
    have hleast : IsLeast {i | p i} (Nat.find ⟨i, hp⟩) :=
      ⟨Nat.find_spec ⟨i, hp⟩, fun _ hj => Nat.find_min' _ hj⟩
    have hlater := h _ hleast
    have hfirst := Nat.find_min' ⟨i, hp⟩ hp
    omega
  · intro h b hb
    by_contra hle
    exact h b (by omega) hb.1

theorem appliesPlaceholder_iff {start : Nat} {tokens : List Token} :
    AppliesPlaceholder start tokens ↔ ∃ j, tokens[j]? = some (.operator .placeholder) ∧
      j + 1 < tokens.length ∧ ∀ i ≤ j + 1, ¬Misplaced start tokens i := by
  simp only [AppliesPlaceholder, forall_isLeast_lt_iff]
  constructor
  · rintro ⟨j, -, htoken, hlength, hplace⟩
    exact ⟨j, htoken, hlength, hplace⟩
  · rintro ⟨j, htoken, hlength, hplace⟩
    refine ⟨j, ?_, htoken, hlength, hplace⟩
    -- the placeholder is in place, so its place is odd
    have hodd : ¬(start + j) % 2 = 0 := by
      intro heven
      exact hplace j (by omega) ⟨_, htoken, by simp [heven]⟩
    omega

/-- Where the first or the second token is out of place, the placeholder is not applied. -/
theorem not_appliesPlaceholder_of_misplaced {start : Nat} {tokens : List Token} {b : Nat}
    (hb : b ≤ 1) (h : Misplaced start tokens b) : ¬AppliesPlaceholder start tokens := by
  rw [appliesPlaceholder_iff]
  rintro ⟨j, -, -, hplace⟩
  exact hplace b (by omega) h

/-- The placeholder is applied by the first two tokens or behind the first one. -/
theorem appliesPlaceholder_cons {start : Nat} {t : Token} {rest : List Token}
    (ht : t.InPlace start) :
    AppliesPlaceholder start (t :: rest) ↔
      t = .operator .placeholder ∧ rest ≠ [] ∧ ¬Misplaced (start + 1) rest 0 ∨
        AppliesPlaceholder (start + 1) rest := by
  rw [appliesPlaceholder_iff, appliesPlaceholder_iff]
  constructor
  · rintro ⟨j, htoken, hlength, hplace⟩
    cases j with
    | zero =>
      refine .inl ⟨by simpa using htoken, ?_, fun h => hplace 1 le_rfl (misplaced_cons_succ.2 h)⟩
      rintro rfl
      simp at hlength
    | succ j =>
      refine .inr ⟨j, by simpa using htoken, Nat.lt_of_succ_lt_succ hlength, fun i hi h => ?_⟩
      exact hplace (i + 1) (by omega) (misplaced_cons_succ.2 h)
  · rintro (⟨rfl, hne, hnext⟩ | ⟨j, htoken, hlength, hplace⟩)
    · have hlength := List.length_pos_iff.2 hne
      refine ⟨0, rfl, Nat.succ_lt_succ hlength, fun i hi h => ?_⟩
      match i with
      | 0 => exact misplaced_cons_zero.1 h ht
      | 1 => exact hnext (misplaced_cons_succ.1 h)
    · refine ⟨j + 1, by simpa using htoken, Nat.succ_lt_succ hlength, fun i hi h => ?_⟩
      cases i with
      | zero => exact misplaced_cons_zero.1 h ht
      | succ i => exact hplace i (by omega) (misplaced_cons_succ.1 h)

theorem appliesPlaceholder_number {start : Nat} (heven : start % 2 = 0) {value : Float}
    {literal : List Char} {rest : List Token} :
    AppliesPlaceholder start (.number value literal :: rest) ↔
      AppliesPlaceholder (start + 1) rest := by
  simp [appliesPlaceholder_cons (Token.inPlace_number.2 heven)]

/-- A pair of an operator and a number applies the placeholder, or what stands behind it does. -/
theorem appliesPlaceholder_pair {start : Nat} (hodd : start % 2 = 1) {op : Operator} {value : Float}
    {literal : List Char} {rest : List Token} :
    AppliesPlaceholder start (.operator op :: .number value literal :: rest) ↔
      op = .placeholder ∨ AppliesPlaceholder (start + 2) rest := by
  have heven : (start + 1) % 2 = 0 := by omega
  simp [appliesPlaceholder_cons (Token.inPlace_operator.2 hodd),
    appliesPlaceholder_number heven, heven]

/-- What the fold over some tokens comes to: the first fault from the left, or the value. -/
inductive Verdict (start : Nat) (total : Float) (tokens : List Token) :
    Except CalcError Float → Prop
  | invalidOperator : AppliesPlaceholder start tokens →
      Verdict start total tokens (.error .invalidOperator)
  | unexpectedToken {b : Nat} : ¬AppliesPlaceholder start tokens →
      IsLeast {i | Misplaced start tokens i} b →
      Verdict start total tokens (.error (.unexpectedToken (start + b)))
  | value {result : Float} : ¬AppliesPlaceholder start tokens → (∀ i, ¬Misplaced start tokens i) →
      leftFold total tokens = .ok result → Verdict start total tokens (.ok result)

namespace Verdict
variable {start : Nat} {total : Float} {tokens : List Token} {result : Except CalcError Float}

theorem eq_invalidOperator (h : Verdict start total tokens result)
    (happlies : AppliesPlaceholder start tokens) : result = .error .invalidOperator := by
  cases h with
  | invalidOperator _ => rfl
  | unexpectedToken hnot _ => exact absurd happlies hnot
  | value hnot _ _ => exact absurd happlies hnot

theorem eq_unexpectedToken (h : Verdict start total tokens result)
    (happlies : ¬AppliesPlaceholder start tokens) {b : Nat}
    (hb : IsLeast {i | Misplaced start tokens i} b) :
    result = .error (.unexpectedToken (start + b)) := by
  cases h with
  | invalidOperator h => exact absurd h happlies
  | unexpectedToken _ hleast => rw [hleast.unique hb]
  | value _ hplaces _ => exact absurd hb.1 (hplaces b)

theorem exists_value (h : Verdict start total tokens result)
    (happlies : ¬AppliesPlaceholder start tokens) (hplaces : ∀ i, ¬Misplaced start tokens i) :
    ∃ value, leftFold total tokens = .ok value ∧ result = .ok value := by
  cases h with
  | invalidOperator h => exact absurd h happlies
  | @unexpectedToken b _ hleast => exact absurd hleast.1 (hplaces b)
  | value _ _ hfold => exact ⟨_, hfold, rfl⟩

end Verdict

/-- A pair that has a value comes to what the tokens behind it come to. -/
theorem Verdict.pair {start : Nat} (hodd : start % 2 = 1) {total next : Float} {op : Operator}
    {value : Float} {literal : List Char} {rest : List Token} {result : Except CalcError Float}
    (happly : op.apply total value = .ok next) (h : Verdict (start + 2) next rest result) :
    Verdict start total (.operator op :: .number value literal :: rest) result := by
  have hop : (Token.operator op).InPlace start := Token.inPlace_operator.2 hodd
  have hnumber : (Token.number value literal).InPlace (start + 1) :=
    Token.inPlace_number.2 (by omega)
  have happlies : ¬AppliesPlaceholder (start + 2) rest →
      ¬AppliesPlaceholder start (.operator op :: .number value literal :: rest) := by
    rw [appliesPlaceholder_pair hodd]
    rintro hrest (rfl | happlies)
    · cases happly
    · exact hrest happlies
  cases h with
  | invalidOperator h => exact .invalidOperator ((appliesPlaceholder_pair hodd).2 (.inr h))
  | @unexpectedToken b h hleast =>
    have hplace : start + 2 + b = start + (b + 2) := by omega
    rw [hplace]
    exact .unexpectedToken (happlies h)
      ((isLeast_cons_succ hop).2 ((isLeast_cons_succ hnumber).2 hleast))
  | value h hplaces hfold =>
    refine .value (happlies h) (fun i hi => ?_) ?_
    · match i with
      | 0 => exact misplaced_cons_zero.1 hi hop
      | 1 => exact misplaced_cons_zero.1 (misplaced_cons_succ.1 hi) hnumber
      | i + 2 => exact hplaces i (misplaced_cons_succ.1 (misplaced_cons_succ.1 hi))
    · rw [← hfold]
      simp only [leftFold, List.filterMap_cons, Token.operator?, Token.value?, List.zip_cons_cons,
        List.foldlM_cons, happly]
      rfl

/-- Folding comes to the first fault from the left, or to the value. -/
theorem verdict_foldPairs (total : Float) {index : Nat} (hodd : index % 2 = 1)
    (tokens : List Token) :
    Verdict index total tokens (foldPairs total index tokens) := by
  fun_induction foldPairs total index tokens with
  | case1 total index =>
    refine .value ?_ (fun _ => not_misplaced_nil) rfl
    rintro ⟨j, -, htoken, -⟩
    simp at htoken
  | case2 total index value literal rest =>
    have hnumber : Misplaced index (.number value literal :: rest) 0 := by simp [hodd]
    exact .unexpectedToken (not_appliesPlaceholder_of_misplaced (by omega) hnumber)
      (isLeast_zero hnumber)
  | case3 total index op =>
    refine .value ?_ (fun i hi => ?_) rfl
    · rintro ⟨j, -, -, hlength, -⟩
      simp at hlength
    · cases i with
      | zero => simp [hodd] at hi
      | succ i => simp at hi
  | case4 total index op next rest =>
    have hop : (Token.operator op).InPlace index := Token.inPlace_operator.2 hodd
    have hnext : Misplaced (index + 1) (.operator next :: rest) 0 := by
      simp only [misplaced_cons_zero, Token.inPlace_operator]
      omega
    exact .unexpectedToken
      (not_appliesPlaceholder_of_misplaced le_rfl (misplaced_cons_succ.2 hnext))
      ((isLeast_cons_succ hop).2 (isLeast_zero hnext))
  | case5 total index op value literal rest next happly ih => exact (ih (by omega)).pair hodd happly
  | case6 total index op value literal rest e happly =>
    obtain ⟨rfl, rfl⟩ := Operator.apply_eq_error_iff.1 happly
    exact .invalidOperator ((appliesPlaceholder_pair hodd).2 (.inl rfl))

/-- What the value of some tokens is, and why there is none: the placeholder is applied before
anything is out of place, or something is out of place before that, or neither happens. -/
structure ReadFromLeft (tokens : List Token) : Prop where
  nil : tokens = [] → final tokens = .ok 0
  invalidOperator : AppliesPlaceholder 0 tokens → final tokens = .error .invalidOperator
  unexpectedToken : ¬AppliesPlaceholder 0 tokens → ∀ b, IsLeast {i | Misplaced 0 tokens i} b →
    final tokens = .error (.unexpectedToken b)
  value : ¬AppliesPlaceholder 0 tokens → (∀ i, ¬Misplaced 0 tokens i) → tokens ≠ [] →
    ∃ first literal rest total, tokens = .number first literal :: rest ∧
      leftFold first rest = .ok total ∧ final tokens = .ok total

theorem readFromLeft_number (first : Float) (literal : List Char) (rest : List Token) :
    ReadFromLeft (.number first literal :: rest) := by
  have hnumber : (Token.number first literal).InPlace 0 := Token.inPlace_number.2 rfl
  have happlies :
      AppliesPlaceholder 0 (.number first literal :: rest) ↔ AppliesPlaceholder 1 rest :=
    appliesPlaceholder_number rfl
  have hverdict : Verdict 1 first rest (final (.number first literal :: rest)) :=
    verdict_foldPairs first rfl rest
  refine ⟨nofun, fun h => hverdict.eq_invalidOperator (happlies.1 h), fun h b hb => ?_,
    fun h hplaces _ => ?_⟩
  · cases b with
    | zero => exact absurd hnumber (misplaced_cons_zero.1 hb.1)
    | succ b =>
      rw [Nat.add_comm]
      exact hverdict.eq_unexpectedToken (mt happlies.2 h) ((isLeast_cons_succ hnumber).1 hb)
  · have hrest : ∀ i, ¬Misplaced 1 rest i := fun i hi => hplaces (i + 1) (misplaced_cons_succ.2 hi)
    obtain ⟨total, hfold, hfinal⟩ := hverdict.exists_value (mt happlies.2 h) hrest
    exact ⟨first, literal, rest, total, rfl, hfold, hfinal⟩

theorem readFromLeft_operator (op : Operator) (rest : List Token) :
    ReadFromLeft (.operator op :: rest) := by
  have hoperator : Misplaced 0 (.operator op :: rest) 0 := by simp
  refine ⟨nofun, fun h => ?_, fun _ b hb => ?_, fun _ hplaces => absurd hoperator (hplaces 0)⟩
  · exact absurd h (not_appliesPlaceholder_of_misplaced (by omega) hoperator)
  · rw [hb.unique (isLeast_zero hoperator)]
    rfl

/-- Whatever the tokens are, evaluation comes to the first fault from the left, or
to the left fold. -/
theorem final_readFromLeft (tokens : List Token) : ReadFromLeft tokens := by
  match tokens with
  | [] =>
    refine ⟨fun _ => rfl, fun ⟨j, _, htoken, _⟩ => ?_, fun _ b hb => ?_,
      fun _ _ hne => absurd rfl hne⟩
    · simp at htoken
    · exact absurd hb.1 not_misplaced_nil
  | .number first literal :: rest => exact readFromLeft_number first literal rest
  | .operator op :: rest => exact readFromLeft_operator op rest

/-- The placeholder is reported, for it is applied before the last number is found out of place. -/
example (a b : Float) :
    final [.number a [], .operator .placeholder, .number b [], .number b []] =
      .error .invalidOperator := rfl

end Evaluation
end PocketCalc
