import PocketCalc.Proofs.Runs

/-!
# The display of a session

In every session that a run leads to the display is the text of the tokens and the fragment, or a
zero if nothing has been typed. So the fragment is never longer than the display it is cut off from,
and the last cluster of the display is always the end of the fragment.
-/
namespace PocketCalc
open Text

/-- What the display has to do with the tokens and the fragment. -/
structure Expression.Synchronised (e : Expression) : Prop where
  display_ne_nil : e.display ≠ []
  display_eq : e.isBlank = true ∧ e.display = emptyDisplay ∨
    e.display = tokensText e.tokens ++ e.pending
  /-- The fragment fits into the display it is replaced on, whatever key is pressed. -/
  length_le : ∀ key : Key, byteLength (e.prepare key).pending ≤ byteLength (e.prepare key).display
  /-- Undo takes its cluster off the fragment. -/
  undo_cut : e.display ≠ emptyDisplay → ∃ front last rest,
    splitLastCluster? e.display = some (front, last) ∧ dropSuffix? last e.pending = some rest

namespace Expression

/-- The fragment fits into a display that ends with it, and so it does after a result is dropped. -/
theorem length_prepare_le {e : Expression} (front : List Char)
    (h : e.isBlank = true ∨ e.display = front ++ e.pending) (key : Key) :
    byteLength (e.prepare key).pending ≤ byteLength (e.prepare key).display := by
  have hlen : byteLength e.pending ≤ byteLength e.display := by
    obtain hblank | hdisplay := h
    · obtain ⟨⟨-, hp⟩, -⟩ : (e.tokens = [] ∧ e.pending = []) ∧ e.display = emptyDisplay := by
        simpa [isBlank] using hblank
      simp [hp, byteLength]
    · rw [hdisplay, byteLength_append]
      omega
  have hzero : byteLength blank.pending ≤ byteLength blank.display := by decide
  unfold prepare
  split
  · split
    · exact hlen
    · exact hzero
  · exact hlen

/-- The last cluster of a plain display is the end of the fragment. -/
theorem exists_undo_cut (front : List Char) {pending : List Char}
    (hplain : ∀ c ∈ front ++ pending, isPlain c) (hne : pending ≠ []) : ∃ before last rest,
      splitLastCluster? (front ++ pending) = some (before, last) ∧
        dropSuffix? last pending = some rest := by
  obtain ⟨rest, c, rfl⟩ := (List.eq_nil_or_concat' pending).resolve_left hne
  rw [← List.append_assoc] at hplain ⊢
  exact ⟨front ++ rest, [c], rest, splitLastCluster?_append hplain, dropSuffix?_append rest [c]⟩

theorem isPlain_of_number {x : Float} : ∀ c ∈ Format.number x, isPlain c := by
  intro c hc
  obtain hdigit | rfl | ⟨op, hop⟩ | hletter := char_of_number hc
  · exact isPlain_of_isDigit hdigit
  · decide
  · exact isPlain_of_symbol? hop
  · have hletters : ∀ c ∈ wordLetters, isPlain c := List.all_eq_true.1 (by decide)
    exact hletters c hletter

theorem synchronised_draft {d : Draft} (h : d.WellFormed) : d.expression.Synchronised := by
  by_cases hne : d = .blank
  · subst hne
    have hblank : blank.isBlank = true := rfl
    refine ⟨by decide, .inl ⟨hblank, rfl⟩, length_prepare_le [] (.inl hblank), fun hz => ?_⟩
    exact absurd rfl hz
  · have hdisplay : d.expression.display = tokensText d.tokens ++ d.pending :=
      h.display_of_ne_blank hne
    have hpending : d.pending ≠ [] := h.pending_ne_nil hne
    refine ⟨?_, .inr hdisplay, length_prepare_le _ (.inr hdisplay), fun _ => ?_⟩
    · rw [hdisplay]
      simp [hpending]
    · rw [hdisplay]
      exact exists_undo_cut _ h.isPlain_text hpending

theorem synchronised_result (x : Float) : (ofResult (Format.number x)).Synchronised := by
  have hne := number_ne_nil x
  refine ⟨hne, .inr rfl, length_prepare_le [] (.inr rfl), fun _ => ?_⟩
  exact exists_undo_cut [] isPlain_of_number hne

end Expression

/-- The display of every session that a run leads to shows its tokens and its fragment. -/
theorem Session.synchronised_run (commands : List Command) :
    (fresh.run commands).expression.Synchronised := by
  obtain ⟨d, hd, hrun⟩ | ⟨x, hrun⟩ := (proper_fresh.run commands).cases
  · rw [hrun]
    exact Expression.synchronised_draft hd
  · rw [hrun]
    exact Expression.synchronised_result x

end PocketCalc
