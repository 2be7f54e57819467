import PocketCalc.Proofs.ReadBack
import PocketCalc.Proofs.Refusals
import PocketCalc.Proofs.Retyping

/-!
# Results that are no finite numbers

A result that is not finite is shown by a word, and nothing of it is left when the next key is
pressed: the session goes on as a fresh one does. So it does when a digit follows any result, and
when a word is taken back. Numbers and operators have no letters, so words are shown by themselves
and as results only.
-/
namespace PocketCalc

/-- A result is shown by a word exactly if its text is not read back as a finite number. -/
theorem Format.number_mem_sentinels_iff {x : Float} :
    number x ∈ sentinels ↔ (Numeral.read? (number x)).any Float.isFinite = false := by
  constructor
  · exact not_isFinite_of_sentinel
  · intro hread
    rw [read?_number_eq] at hread
    exact number_mem_sentinels ((isFinite_readBack x).symm.trans hread)

/-- Text that has been typed is no word, nor is any part of it. -/
theorem not_isInfix_of_isTyped {text word : List Char} (h : ∀ c ∈ text, isTyped c)
    (hword : word ∈ sentinels) : ¬word <:+: text := by
  have hcapital : ∀ word ∈ sentinels, 'N' ∈ word ∨ 'I' ∈ word := by decide
  intro hpart
  obtain hn | hi := hcapital word hword
  · exact absurd (h 'N' (hpart.subset hn)) (by decide)
  · exact absurd (h 'I' (hpart.subset hi)) (by decide)

namespace Draft.WellFormed
variable {d : Draft} (h : d.WellFormed)
include h

theorem isTyped_text : ∀ c ∈ d.text, isTyped c := fun c hc => isTyped_iff.2 (h.char_cases c hc)

theorem isTyped_display : ∀ c ∈ d.expression.display, isTyped c := by
  rw [display_expression]
  by_cases hnil : d.text = []
  · have hzero : ∀ c ∈ emptyDisplay, isTyped c := List.all_iff_forall_prop.1 (by decide)
    rwa [hnil]
  · rw [shown_of_ne_nil hnil]
    exact h.isTyped_text

theorem isTyped_token {t : Token} (ht : t ∈ d.tokens) : ∀ c ∈ t.text, isTyped c := by
  intro c hc
  have htokens : c ∈ tokensText d.tokens := List.mem_flatMap.2 ⟨t, ht, hc⟩
  exact h.isTyped_text c (List.mem_append_left _ htokens)

end Draft.WellFormed

namespace Session

/-- A key after a result that is dropped is a key on a fresh session. -/
theorem ingest_ofResult_of_dropped {text : List Char} {c : Char} {key : Key}
    (hkey : Key.ofChar c = .ok key) (h : (Expression.ofResult text).carriesOver key = false) :
    (ofExpression (.ofResult text)).ingest c = fresh.ingest c := by
  have hstep : (Expression.ofResult text).step key = Expression.blank.step key :=
    Expression.step_ofResult_of_dropped h
  obtain ⟨e, he, -⟩ := Expression.proper_step Draft.wellFormed_blank (Key.legal_of_ofChar hkey)
  have hblank : Expression.blank.step key = .ok e := he
  simp only [ingest, hkey, ofExpression, fresh, hstep, hblank]

theorem undo_of_dropped {s : Session} (hevaluated : s.expression.evaluated = true)
    (hfinite : s.expression.isFinite = false) : s.undo = fresh := by
  simp only [undo, hevaluated, hfinite]
  rfl

theorem type_fresh {c : Char} {key : Key} (hkey : Key.ofChar c = .ok key) :
    fresh.type c = ofExpression (Draft.blank.step key).expression :=
  type_of_step hkey (Draft.wellFormed_blank.step_expression (Key.legal_of_ofChar hkey)
    fun _ => .inl rfl)

theorem exists_type_fresh {c : Char} {key : Key} (hkey : Key.ofChar c = .ok key) :
    ∃ d : Draft, d.WellFormed ∧ fresh.type c = ofExpression d.expression :=
  ⟨_, Draft.wellFormed_blank.step (Key.legal_of_ofChar hkey), type_fresh hkey⟩

/-- What is left of a result by the next key, and where words are shown. Only results that are not
finite are shown by a word, any key after one and undo do what they do on a fresh session, and no
letter is ever part of anything else. -/
structure NoResidue (s : Session) : Prop where
  digit : s.expression.evaluated = true → ∀ c, c.isDigit → s.ingest c = fresh.ingest c
  sentinel_iff : s.expression.evaluated = true →
    (s.mainText ∈ sentinels ↔ s.expression.isFinite = false)
  key : s.expression.evaluated = true → s.mainText ∈ sentinels →
    ∀ c ∈ keyCharacters, s.ingest c = fresh.ingest c
  undo : s.expression.evaluated = true → s.mainText ∈ sentinels → s.undo = fresh
  letter : ∀ c ∈ s.mainText, isTyped c = false →
    s.mainText ∈ sentinels ∧ s.expression.evaluated = true
  literal : ∀ t ∈ s.expression.tokens, ∀ word ∈ sentinels, ¬word <:+: t.text
  extended : s.mainText ∈ sentinels →
    ∀ c ∈ keyCharacters, ∀ word ∈ sentinels, ¬word <:+: (s.type c).mainText

theorem noResidue_draft {d : Draft} (h : d.WellFormed) : (ofExpression d.expression).NoResidue where
  digit := fun hevaluated => by cases hevaluated
  sentinel_iff := fun hevaluated => by cases hevaluated
  key := fun hevaluated => by cases hevaluated
  undo := fun hevaluated => by cases hevaluated
  letter := fun c hc hletter => by
    have htyped := h.isTyped_display c hc
    rw [hletter] at htyped
    cases htyped
  literal := fun t ht word hword => not_isInfix_of_isTyped (h.isTyped_token ht) hword
  extended := fun hsentinel =>
    absurd (List.infix_refl _) (not_isInfix_of_isTyped h.isTyped_display hsentinel)

theorem ingest_of_sentinel {x : Float} (hsentinel : Format.number x ∈ sentinels) {c : Char}
    (hc : c ∈ keyCharacters) :
    (ofExpression (.ofResult (Format.number x))).ingest c = fresh.ingest c := by
  have hfinite : (Expression.ofResult (Format.number x)).isFinite = false :=
    Format.number_mem_sentinels_iff.1 hsentinel
  obtain ⟨key, hkey⟩ := Key.exists_ofChar hc
  exact ingest_ofResult_of_dropped hkey (by simp [Expression.carriesOver, hfinite])

theorem noResidue_result (x : Float) : (ofExpression (.ofResult (Format.number x))).NoResidue where
  digit := fun _ c hc => ingest_ofResult_of_dropped (Key.ofChar_of_isDigit hc)
    (by simp [Expression.carriesOver, Key.isDigit])
  sentinel_iff := fun _ => Format.number_mem_sentinels_iff
  key := fun _ hsentinel c hc => ingest_of_sentinel hsentinel hc
  undo := fun _ hsentinel => undo_of_dropped rfl (Format.number_mem_sentinels_iff.1 hsentinel)
  letter := fun c hc hletter => by
    refine ⟨(isShown_or_sentinel x).resolve_left fun hshown => ?_, rfl⟩
    have htyped := (Expression.wellFormed_first_of_isShown hshown).isTyped_text c hc
    rw [hletter] at htyped
    cases htyped
  literal := fun t ht => absurd ht List.not_mem_nil
  extended := fun hsentinel c hc word hword => by
    obtain ⟨key, hkey⟩ := Key.exists_ofChar hc
    obtain ⟨d, hd, hfresh⟩ := exists_type_fresh hkey
    rw [type, ingest_of_sentinel hsentinel hc, ← type, hfresh]
    exact not_isInfix_of_isTyped hd.isTyped_display hword

/-- In every session that a run leads to, results leave nothing behind. -/
theorem noResidue_run (commands : List Command) : (fresh.run commands).NoResidue := by
  obtain ⟨d, hd, hrun⟩ | ⟨x, hrun⟩ := (proper_fresh.run commands).cases
  · rw [hrun]
    exact noResidue_draft hd
  · rw [hrun]
    exact noResidue_result x

/-- A numeral that is too long to be read as a finite number leads to a word. -/
example : (fresh.typeAll (List.replicate 309 '9' ++ ['='])).mainText = Format.infinityText := by
  decide +kernel

end Session
end PocketCalc
