import PocketCalc.Operator
import PocketCalc.Proofs.Literal
import PocketCalc.Text.Cluster

/-!
# Texts of plain characters

Most characters are clusters of their own whatever stands beside them. All characters that a
calculator shows are of this kind, so the last cluster of a display is its last character.
-/
namespace PocketCalc.Text

/-- Whether a character joins neither of its neighbours, unless they ask for it. -/
def isPlain (c : Char) : Bool :=
  clusterClass c = .other && !pictographs.has c && !conjunctConsonants.has c

/-- A summary of text after which no plain character continues a cluster. -/
structure Before.Open (b : Before) : Prop where
  last : b.last = .other
  pictograph : b.pictograph = false
  joinedPictograph : b.joinedPictograph = false
  consonant : b.consonant = false
  linkedConsonant : b.linkedConsonant = false

theorem Before.joins_of_isPlain {b : Before} {c : Char} (hb : b.Open) (hc : isPlain c) :
    b.joins c = false := by
  simp only [isPlain, Bool.and_eq_true, decide_eq_true_eq, Bool.not_eq_true'] at hc
  simp [joins, hb.last, hb.joinedPictograph, hb.linkedConsonant, hc.1.1, standsAlone, sameSyllable,
    attaches]

theorem Before.open_push {b : Before} {c : Char} (hp : b.pictograph = false)
    (hs : b.consonant = false) (hc : isPlain c) : (b.push c).Open := by
  simp only [isPlain, Bool.and_eq_true, decide_eq_true_eq, Bool.not_eq_true'] at hc
  constructor <;> simp [push, hp, hs, hc.1.1, hc.1.2, hc.2]

theorem clustersFrom_of_isPlain {b : Before} (hb : b.Open) (current : List Char) {text : List Char}
    (h : ∀ c ∈ text, isPlain c) :
    clustersFrom b current text = current :: text.map fun c => [c] := by
  induction text generalizing b current with
  | nil => rfl
  | cons c rest ih =>
    have hc : isPlain c := h c (by simp)
    have hnext := Before.open_push hb.pictograph hb.consonant hc
    have hrest : ∀ d ∈ rest, isPlain d := fun d hd => h d (by simp [hd])
    rw [clustersFrom, Before.joins_of_isPlain hb hc, if_neg (by decide), ih hnext [c] hrest,
      List.map_cons]

theorem clusters_of_isPlain {text : List Char} (h : ∀ c ∈ text, isPlain c) :
    clusters text = text.map fun c => [c] := by
  cases text with
  | nil => rfl
  | cons c rest =>
    have hstart := Before.open_push (b := .start) rfl rfl (h c (by simp))
    exact clustersFrom_of_isPlain hstart [c] fun d hd => h d (by simp [hd])

theorem splitLastCluster?_append {front : List Char} {c : Char}
    (h : ∀ d ∈ front ++ [c], isPlain d) :
    splitLastCluster? (front ++ [c]) = some (front, [c]) := by
  have hflat : (front.map fun d => [d]).flatten = front := by
    rw [← List.flatMap_def, List.flatMap_singleton']
  simp [splitLastCluster?, clusters_of_isPlain h, hflat]

theorem isPlain_of_isDigit {c : Char} (h : c.isDigit) : isPlain c :=
  forall_isDigit (p := fun c => isPlain c = true) (by decide) h

theorem isPlain_of_symbol? {op : Operator} {c : Char} (h : op.symbol? = some c) : isPlain c := by
  refine Operator.symbol_cases ?_ ?_ ?_ ?_ ?_ h <;> decide

end PocketCalc.Text

namespace PocketCalc

/-- Whether a character can be part of a number or an operator. -/
def isTyped (c : Char) : Bool := c.isDigit || c = '.' || Operator.isSymbol c

theorem isTyped_iff {c : Char} :
    isTyped c = true ↔ c.isDigit ∨ c = '.' ∨ ∃ op : Operator, op.symbol? = some c := by
  simp only [isTyped, Bool.or_eq_true, decide_eq_true_eq, Operator.isSymbol_iff, or_assoc]

theorem IsLiteral.isTyped {text : List Char} (h : IsLiteral text) : ∀ c ∈ text, isTyped c := by
  obtain ⟨n, rfl⟩ := h
  intro c hc
  rw [isTyped_iff]
  obtain hdigit | hpoint | ⟨rfl, -⟩ := n.mem_text hc
  · exact .inl hdigit
  · exact .inr (.inl hpoint)
  · exact .inr (.inr ⟨.minus, rfl⟩)

theorem Text.isPlain_of_isTyped {c : Char} (h : isTyped c) : isPlain c := by
  obtain hdigit | rfl | ⟨op, hop⟩ := isTyped_iff.1 h
  · exact isPlain_of_isDigit hdigit
  · decide
  · exact isPlain_of_symbol? hop

end PocketCalc
