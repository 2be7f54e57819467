import PocketCalc.Proofs.FrontEnds

/-!
# Scripts in parts

A script may come in two parts. As long as the first part does not quit, the parts do what the whole
does. But an application that has quit is given one more key before it is asked whether it goes on.
So behind a part that quits, the next part leaves the application alone exactly if its first key is
ignored.
-/
namespace PocketCalc
namespace App

/-- The application after the first key of a script, if there is one. -/
def readFirst (clipboard : Clipboard) (app : App) (script : List Char) : App :=
  match script.head? with
  | none => app
  | some c => app.handleWith clipboard (app.config.keys.eventOfChar c)

/-- Whether an event leaves the session alone, and the status set or unset. -/
def Ignores (app : App) (event : Event) : Prop :=
  event = .nothing ∨ app.session.handle event = app.session ∧ (app.status.isSome ↔ event = .copy)

/-- An application that has quit changes with every event that it does not ignore. -/
theorem alike_handleWith_iff (clipboard : Clipboard) {app : App} (h : app.mode = .quit)
    (event : Event) :
    Alike (app.handleWith clipboard event) app ↔ app.Ignores event := by
  have hmode : (app.handleWith clipboard event).mode = app.mode :=
    ((mode_handleWith clipboard app event).2 (.inl h)).trans h.symm
  have hstatus (hne : event ≠ .nothing) :
      (app.handleWith clipboard event).status.isSome = (event = .copy : Bool) := by
    cases event with
    | nothing => exact absurd rfl hne
    | input c | undo | clear | copy | quit => rfl
  constructor
  · intro halike
    refine or_iff_not_imp_left.2 fun hne => ⟨halike.session, ?_⟩
    rw [← halike.status, hstatus hne, decide_eq_true_iff]
  · rintro (rfl | ⟨hsession, hcopy⟩)
    · exact ⟨rfl, hmode, rfl⟩
    · by_cases hne : event = .nothing
      · subst hne
        exact ⟨rfl, hmode, rfl⟩
      · refine ⟨hsession, hmode, ?_⟩
        rw [hstatus hne, Bool.eq_iff_iff, decide_eq_true_iff, hcopy]

/-- An application that has quit reads one more key. -/
theorem runScript_of_quit (clipboard : Clipboard) {app : App} (h : app.mode = .quit)
    (script : List Char) : app.runScript clipboard script = app.readFirst clipboard script := by
  cases script with
  | nil => rfl
  | cons c rest =>
    have hstill := (mode_handleWith clipboard app (app.config.keys.eventOfChar c)).2 (.inl h)
    rw [runScript, if_pos hstill]
    rfl

theorem config_runScript (clipboard : Clipboard) (app : App) (script : List Char) :
    (app.runScript clipboard script).config = app.config := by
  induction script generalizing app with
  | nil => rfl
  | cons c rest ih =>
    rw [runScript]
    split
    · rfl
    · exact ih _

/-- The second part goes on where the first one has not quit. -/
theorem runScript_append_of_ne_quit (clipboard : Clipboard) {app : App} {a : List Char}
    (h : (app.runScript clipboard a).mode ≠ .quit) (b : List Char) :
    app.runScript clipboard (a ++ b) = (app.runScript clipboard a).runScript clipboard b := by
  induction a generalizing app with
  | nil => rfl
  | cons c rest ih =>
    rw [List.cons_append, runScript, runScript]
    rw [runScript] at h
    split
    · next hquit => exact absurd hquit (by rwa [if_pos hquit] at h)
    · next hquit =>
      rw [if_neg hquit] at h
      exact ih h

/-- Behind a part that quits nothing of the script is read. -/
theorem runScript_append_of_quit (clipboard : Clipboard) {app : App} {a : List Char} (hne : a ≠ [])
    (h : (app.runScript clipboard a).mode = .quit) (b : List Char) :
    app.runScript clipboard (a ++ b) = app.runScript clipboard a := by
  induction a generalizing app with
  | nil => exact absurd rfl hne
  | cons c rest ih =>
    rw [List.cons_append, runScript, runScript]
    rw [runScript] at h
    split
    · rfl
    · next hquit =>
      rw [if_neg hquit] at h
      have hrest : rest ≠ [] := by
        rintro rfl
        exact hquit h
      exact ih hrest h

theorem Alike.refl (app : App) : Alike app app := ⟨rfl, rfl, rfl⟩

theorem Alike.symm {app app' : App} (h : Alike app app') : Alike app' app :=
  ⟨h.session.symm, h.mode.symm, h.status.symm⟩

theorem Alike.trans {app app' app'' : App} (h : Alike app app') (h' : Alike app' app'') :
    Alike app app'' :=
  ⟨h.session.trans h'.session, h.mode.trans h'.mode, h.status.trans h'.status⟩

/-- What becomes of the copies in a script shows in the text of the status only. -/
theorem Alike.runScript {app app' : App} (h : Alike app app') (hconfig : app.config = app'.config)
    (clipboard clipboard' : Clipboard) (script : List Char) :
    Alike (app.runScript clipboard script) (app'.runScript clipboard' script) := by
  induction script generalizing app app' with
  | nil => exact h
  | cons c rest ih =>
    have hnext := h.handleWith clipboard clipboard' (app.config.keys.eventOfChar c)
    rw [App.runScript, App.runScript, ← hconfig, ← hnext.mode]
    split
    · exact hnext
    · exact ih hnext hconfig

theorem alike_readFirst_iff (clipboard : Clipboard) {app : App} (h : app.mode = .quit)
    (script : List Char) : Alike (app.readFirst clipboard script) app ↔
      ∀ c ∈ script.head?, app.Ignores (app.config.keys.eventOfChar c) := by
  cases script with
  | nil => exact iff_of_true (Alike.refl app) nofun
  | cons c rest =>
    simpa [readFirst] using alike_handleWith_iff clipboard h (app.config.keys.eventOfChar c)

/-- An application that has quit reads the first key of a script and no other. So a script does what
its two parts do, whatever becomes of the copies in each of them, unless the first part quits and
the first key of the second one is not ignored. -/
theorem runScript_inParts (clipboard first second : Clipboard) (app : App) (a b : List Char) :
    (app.mode = .quit → app.runScript clipboard b = app.readFirst clipboard b) ∧
      (Alike (app.runScript clipboard (a ++ b)) ((app.runScript first a).runScript second b) ↔
        (a ≠ [] → (app.runScript first a).mode = .quit →
          ∀ c ∈ b.head?, (app.runScript first a).Ignores (app.config.keys.eventOfChar c))) := by
  refine ⟨fun hmode => runScript_of_quit clipboard hmode b, ?_⟩
  have hwhole := (Alike.refl app).runScript rfl clipboard first (a ++ b)
  by_cases hquit : (app.runScript first a).mode = .quit
  · by_cases hne : a = []
    · subst hne
      have hparts := (Alike.refl app).runScript rfl clipboard second b
      exact iff_of_true hparts fun hnil => absurd rfl hnil
    · have hfirst := alike_readFirst_iff second hquit b
      rw [config_runScript] at hfirst
      rw [runScript_append_of_quit first hne hquit] at hwhole
      rw [runScript_of_quit second hquit]
      exact ⟨fun h _ _ => hfirst.1 (h.symm.trans hwhole),
        fun h => hwhole.trans (hfirst.2 (h hne hquit)).symm⟩
  · rw [runScript_append_of_ne_quit first hquit] at hwhole
    have hparts := (Alike.refl (app.runScript first a)).runScript rfl first second b
    exact iff_of_true (hwhole.trans hparts) fun _ h => absurd h hquit

/-- A digit that is typed at an application that has quit is still shown, unless it comes in one
script with the key that quits. -/
theorem digit_behind_quit :
    let clipboard : Clipboard := fun _ => .copied
    let whole := (start {}).runScript clipboard ['q', '5']
    let parts := ((start {}).runScript clipboard ['q']).runScript clipboard ['5']
    whole.session.mainText = ['0'] ∧ parts.session.mainText = ['5'] ∧
      ((start {}).runScript clipboard ['q']).mode = .quit ∧ ¬Alike whole parts := by
  intro clipboard whole parts
  have hwhole : whole.session.mainText = ['0'] := by decide +kernel
  have hparts : parts.session.mainText = ['5'] := by decide +kernel
  refine ⟨hwhole, hparts, by decide +kernel, fun halike => ?_⟩
  rw [halike.session, hparts] at hwhole
  exact absurd hwhole (by decide)

end App
end PocketCalc
