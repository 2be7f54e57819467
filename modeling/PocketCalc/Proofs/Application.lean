import PocketCalc.App
import PocketCalc.Proofs.Refusals

/-!
# Runs of the application

The application hands some events on to its session and answers the others itself. Its session is
the one that the commands among the events lead to, whatever has been copied in between and whatever
came of it. The mode remembers a request to quit, and the status whether the last event with a
meaning was a copy.
-/
namespace PocketCalc

/-- What an event tells the session, if anything. -/
def Event.command? : Event → Option Command
  | .input c => some (.key c)
  | .undo => some .undo
  | .clear => some .reset
  | .copy | .quit | .nothing => none

namespace Session

theorem handle_of_command? (s : Session) {event : Event} {command : Command}
    (h : event.command? = some command) : s.handle event = s.perform command := by
  cases event with
  | input c | undo | clear =>
    obtain rfl := Option.some.inj h
    rfl
  | copy | quit | nothing => simp [Event.command?] at h

theorem handle_of_command?_eq_none (s : Session) {event : Event} (h : event.command? = none) :
    s.handle event = s := by
  cases event with
  | input c | undo | clear => simp [Event.command?] at h
  | copy | quit | nothing => rfl

theorem Proper.type_of_refused {s : Session} (h : s.Proper) {c : Char}
    (hrefused : (s.ingest c).2.isSome) : s.type c = s :=
  type_of_notMem s ((h.faultless.refused_iff c).1 hrefused)

end Session

namespace App

/-- The application after several events, each with what comes of a copy at that time. -/
def run (app : App) (steps : List (Event × CopyOutcome)) : App :=
  steps.foldl (fun app step => app.handle step.1 step.2) app

theorem run_append (app : App) (steps later : List (Event × CopyOutcome)) :
    app.run (steps ++ later) = (app.run steps).run later := List.foldl_append

theorem config_run (app : App) (steps : List (Event × CopyOutcome)) :
    (app.run steps).config = app.config := by
  induction steps generalizing app with
  | nil => rfl
  | cons step rest ih => exact ih (app.handle step.1 step.2)

theorem session_run (app : App) (steps : List (Event × CopyOutcome)) :
    (app.run steps).session = app.session.run ((steps.map Prod.fst).filterMap Event.command?) := by
  induction steps generalizing app with
  | nil => rfl
  | cons step rest ih =>
    obtain ⟨event, outcome⟩ := step
    have hrest : (app.run ((event, outcome) :: rest)).session =
        (app.session.handle event).run ((rest.map Prod.fst).filterMap Event.command?) :=
      ih (app.handle event outcome)
    rw [hrest, List.map_cons]
    cases hcommand : event.command? with
    | none =>
      rw [List.filterMap_cons_none hcommand, Session.handle_of_command?_eq_none _ hcommand]
    | some command =>
      rw [List.filterMap_cons_some hcommand, Session.handle_of_command? _ hcommand]
      rfl

theorem nextMode_eq_quit_iff (mode : Mode) (event : Event) :
    nextMode mode event = .quit ↔ mode = .quit ∨ event = .quit := by
  cases event <;> simp [nextMode]

theorem mode_run (app : App) (steps : List (Event × CopyOutcome)) :
    (app.run steps).mode = .quit ↔ app.mode = .quit ∨ .quit ∈ steps.map Prod.fst := by
  induction steps generalizing app with
  | nil => simp [run]
  | cons step rest ih =>
    calc (app.run (step :: rest)).mode = .quit
      _ ↔ (app.handle step.1 step.2).mode = .quit ∨ Event.quit ∈ rest.map Prod.fst :=
        ih (app.handle step.1 step.2)
      _ ↔ (app.mode = .quit ∨ step.1 = .quit) ∨ Event.quit ∈ rest.map Prod.fst :=
        or_congr_left (nextMode_eq_quit_iff app.mode step.1)
      _ ↔ app.mode = .quit ∨ Event.quit ∈ (step :: rest).map Prod.fst := by
        simp only [or_assoc, List.map_cons, List.mem_cons, eq_comm]

/-- A copy sets the status, and any other event with a meaning takes it away. -/
theorem status_run (config : Config) (steps : List (Event × CopyOutcome)) :
    ((start config).run steps).status.isSome ↔
      ((steps.map Prod.fst).filter (· ≠ .nothing)).getLast? = some .copy := by
  -- only the last event matters, and an event without a meaning counts as none
  induction steps using List.reverseRecOn with
  | nil => simp [run, start]
  | append_singleton front step ih =>
    obtain ⟨event, outcome⟩ := step
    have hlast : ((start config).run (front ++ [(event, outcome)])).status =
        ((start config).run front).nextStatus outcome event := by
      rw [run_append]
      rfl
    rw [hlast, List.map_append, List.filter_append]
    cases event with
    | nothing => simpa [nextStatus] using ih
    | copy => simp [nextStatus]
    | input c | undo | clear | quit => simp [nextStatus]

/-- What is known of an application from its settings and the events it has handled. Copying,
quitting and keys without a meaning or refused leave the session alone, and nothing brings an
application back that has quit. -/
structure Follows (app : App) (config : Config) (events : List Event) : Prop where
  config_eq : app.config = config
  session_eq : app.session = Session.fresh.run (events.filterMap Event.command?)
  session_handle : ∀ event ∈ [Event.copy, .quit, .nothing], ∀ outcome,
    (app.handle event outcome).session = app.session
  session_refused : ∀ c, (app.session.ingest c).2.isSome → ∀ outcome,
    (app.handle (.input c) outcome).session = app.session
  mode_eq_quit_iff : app.mode = .quit ↔ .quit ∈ events
  mode_eq_quit : .quit ∈ events → ∀ later, (app.run later).mode = .quit
  status_isSome_iff : app.status.isSome ↔ (events.filter (· ≠ .nothing)).getLast? = some .copy
  mainText_eq : app.view.mainText = (Session.fresh.run (events.filterMap Event.command?)).mainText
  subtotal_eq : app.view.subtotal = if config.display.showSubtotal then
    (Session.fresh.run (events.filterMap Event.command?)).subtotal else []
  showKeyHelp_eq : app.view.showKeyHelp = config.display.showKeyHelp
  shown : app.view.mode = app.mode ∧ app.view.status = app.status

/-- Whatever is handled and whatever comes of its copies, an application follows from its settings
and the events. -/
theorem follows_run (config : Config) (steps : List (Event × CopyOutcome)) :
    ((start config).run steps).Follows config (steps.map Prod.fst) := by
  have hconfig : ((start config).run steps).config = config := config_run (start config) steps
  have hsession : ((start config).run steps).session =
      Session.fresh.run ((steps.map Prod.fst).filterMap Event.command?) :=
        session_run (start config) steps
  have hmode : ((start config).run steps).mode = .quit ↔ .quit ∈ steps.map Prod.fst := by
    simpa [start] using mode_run (start config) steps
  have hproper : ((start config).run steps).session.Proper := by
    rw [hsession]
    exact Session.proper_fresh.run _
  exact {
    config_eq := hconfig
    session_eq := hsession
    session_handle := fun event hevent _ => by
      refine Session.handle_of_command?_eq_none _ ?_
      revert event
      decide
    session_refused := fun c hrefused _ => hproper.type_of_refused hrefused
    mode_eq_quit_iff := hmode
    mode_eq_quit := fun hquit later => (mode_run _ later).2 (.inl (hmode.2 hquit))
    status_isSome_iff := status_run config steps
    mainText_eq := congrArg Session.mainText hsession
    subtotal_eq := by rw [view, hconfig, hsession]
    showKeyHelp_eq := by rw [view, hconfig]
    shown := ⟨rfl, rfl⟩ }

/-- A key without a meaning leaves the message of a failed copy in its place. -/
example :
    ((start {}).run [(.input '4', .copied), (.copy, .failed ['!']), (.nothing, .copied)]).status =
      some ['!'] := rfl

end App
end PocketCalc
