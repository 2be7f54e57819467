import PocketCalc.CommandLine.Program
import PocketCalc.Interaction
import PocketCalc.Proofs.Application
import PocketCalc.Proofs.Subtotal

/-!
# Scripts and terminals

The characters of a script can be read as they are or typed on a terminal, one plain key for each.
Both ways the application handles the events of the characters up to the first that quits, and ends
alike. A script ends with a few lines of output, a terminal shows a frame for every key and every
change of size.
-/
namespace PocketCalc

/-- The elements of a list up to the first that stops, which is the last. -/
def upTo {α : Type} (stops : α → Bool) : List α → List α
  | [] => []
  | x :: rest => if stops x then [x] else x :: upTo stops rest

theorem upTo_of_stops {α : Type} {stops : α → Bool} {x : α} (h : stops x = true) (rest : List α) :
    upTo stops (x :: rest) = [x] := by
  simp [upTo, h]

theorem upTo_of_not_stops {α : Type} {stops : α → Bool} {x : α} (h : stops x = false)
    (rest : List α) :
    upTo stops (x :: rest) = x :: upTo stops rest := by
  simp [upTo, h]

namespace KeyBindings

def quits (keys : KeyBindings) (c : Char) : Bool := c = keys.quit

theorem eventOfChar_eq_quit_iff (keys : KeyBindings) (c : Char) :
    keys.eventOfChar c = .quit ↔ keys.quits c = true := by
  unfold eventOfChar quits
  split_ifs <;> simp_all

end KeyBindings

namespace App

def handleAll (clipboard : Clipboard) (app : App) (events : List Event) : App :=
  events.foldl (handleWith clipboard) app

theorem mode_handleWith (clipboard : Clipboard) (app : App) (event : Event) :
    (app.handleWith clipboard event).mode = .quit ↔ app.mode = .quit ∨ event = .quit :=
  nextMode_eq_quit_iff app.mode event

/-- Copying to a clipboard is one way that copies can come out. -/
theorem exists_handleAll_eq_run (clipboard : Clipboard) (app : App) (events : List Event) :
    ∃ steps, app.handleAll clipboard events = app.run steps := by
  induction events generalizing app with
  | nil => exact ⟨[], rfl⟩
  | cons event rest ih =>
    obtain ⟨steps, hrun⟩ := ih (app.handleWith clipboard event)
    exact ⟨(event, clipboard app.session.mainText) :: steps, hrun⟩

theorem proper_handleAll (clipboard : Clipboard) {app : App} (h : app.session.Proper)
    (events : List Event) : (app.handleAll clipboard events).session.Proper := by
  obtain ⟨steps, hrun⟩ := exists_handleAll_eq_run clipboard app events
  rw [hrun, session_run]
  exact h.run _

theorem config_handleAll (clipboard : Clipboard) (app : App) (events : List Event) :
    (app.handleAll clipboard events).config = app.config := by
  obtain ⟨steps, hrun⟩ := exists_handleAll_eq_run clipboard app events
  rw [hrun, config_run]

/-- Two applications that differ in the text of the status at most. -/
structure Alike (app app' : App) : Prop where
  session : app.session = app'.session
  mode : app.mode = app'.mode
  status : app.status.isSome = app'.status.isSome

theorem Alike.handleWith {app app' : App} (h : Alike app app') (clipboard clipboard' : Clipboard)
    (event : Event) :
    Alike (app.handleWith clipboard event) (app'.handleWith clipboard' event) where
  session := congrArg (·.handle event) h.session
  mode := congrArg (nextMode · event) h.mode
  status := by
    cases event with
    | nothing => exact h.status
    | input c | undo | clear | copy | quit => rfl

/-- What becomes of a copy shows in the text of the status only. -/
theorem Alike.handleAll {app app' : App} (h : Alike app app') (clipboard clipboard' : Clipboard)
    (events : List Event) :
    Alike (app.handleAll clipboard events) (app'.handleAll clipboard' events) := by
  induction events generalizing app app' with
  | nil => exact h
  | cons event rest ih => exact ih (h.handleWith clipboard clipboard' event)

/-- The events of a script, up to the one that quits. -/
def scriptEvents (keys : KeyBindings) (script : List Char) : List Event :=
  (upTo keys.quits script).map keys.eventOfChar

theorem runScript_eq_handleAll (clipboard : Clipboard) {app : App} (hmode : app.mode ≠ .quit)
    (script : List Char) :
    app.runScript clipboard script =
      app.handleAll clipboard (scriptEvents app.config.keys script) := by
  induction script generalizing app with
  | nil => rfl
  | cons c rest ih =>
    have hnext := mode_handleWith clipboard app (app.config.keys.eventOfChar c)
    rw [KeyBindings.eventOfChar_eq_quit_iff, or_iff_right hmode] at hnext
    rw [runScript]
    cases hquits : app.config.keys.quits c with
    | true =>
      have hevents :
          scriptEvents app.config.keys (c :: rest) = [app.config.keys.eventOfChar c] := by
        rw [scriptEvents, upTo_of_stops hquits, List.map_singleton]
      rw [if_pos (hnext.2 hquits), hevents]
      rfl
    | false =>
      have hstays : (app.handleWith clipboard (app.config.keys.eventOfChar c)).mode ≠ .quit := by
        simp [hnext, hquits]
      have hevents : scriptEvents app.config.keys (c :: rest) =
          app.config.keys.eventOfChar c :: scriptEvents app.config.keys rest := by
        rw [scriptEvents, upTo_of_not_stops hquits, List.map_cons, scriptEvents]
      rw [if_neg hstays, ih hstays, hevents]
      rfl

end App

namespace Interaction

def Input.quits (keys : KeyBindings) : Input → Bool
  | .key press => keys.eventOfKey press = .quit
  | .resize _ | .other => false

/-- Reports of a terminal on which the characters of a script are typed as plain keys, with any
other reports in between. -/
inductive Types : List Char → List Input → Prop
  | nil : Types [] []
  | char (c : Char) {script : List Char} {inputs : List Input} (rest : Types script inputs) :
      Types (c :: script) (.key ⟨.char c, false, .press⟩ :: inputs)
  | resize (size : Screen.Size) {script : List Char} {inputs : List Input}
      (rest : Types script inputs) :
      Types script (.resize size :: inputs)
  | other {script : List Char} {inputs : List Input} (rest : Types script inputs) :
      Types script (.other :: inputs)

/-- Up to the one that quits, the reports still type the script up to there. -/
theorem Types.upTo {script : List Char} {inputs : List Input} (h : Types script inputs)
    (keys : KeyBindings) :
    Types (PocketCalc.upTo keys.quits script) (PocketCalc.upTo (Input.quits keys) inputs) := by
  induction h with
  | nil => exact .nil
  | @char c script inputs _ ih =>
    have hsame : Input.quits keys (.key ⟨.char c, false, .press⟩) = keys.quits c := by
      simp [Input.quits, KeyBindings.eventOfChar_eq_quit_iff]
    cases hquits : keys.quits c with
    | true =>
      rw [upTo_of_stops hquits, upTo_of_stops (hsame.trans hquits)]
      exact .char c .nil
    | false =>
      rw [upTo_of_not_stops hquits, upTo_of_not_stops (hsame.trans hquits)]
      exact .char c ih
  | resize size _ ih => exact .resize size ih
  | other _ ih => exact .other ih

/-- The application handles the characters that are typed. -/
theorem Types.app_foldl_receive {script : List Char} {inputs : List Input} (h : Types script inputs)
    (clipboard : Clipboard) (t : Terminal) :
    (inputs.foldl (Terminal.receive clipboard) t).app =
      t.app.handleAll clipboard (script.map t.app.config.keys.eventOfChar) := by
  induction h generalizing t with
  | nil => rfl
  | char c _ ih =>
    rw [List.foldl_cons, ih, Terminal.receive, KeyBindings.eventOfKey_char]
    rfl
  | resize size _ ih => exact ih _
  | other _ ih => exact ih _

/-- Each report with the terminal after it. -/
def history (clipboard : Clipboard) (t : Terminal) : List Input → List (Input × Terminal)
  | [] => []
  | input :: rest =>
    (input, t.receive clipboard input) :: history clipboard (t.receive clipboard input) rest

/-- The frames for reports that are all read. -/
def drawn (clipboard : Clipboard) (t : Terminal) (inputs : List Input) : List Screen.Frame :=
  ((history clipboard t inputs).filter (·.1.draws)).map (·.2.frame)

theorem drawn_cons (clipboard : Clipboard) (t : Terminal) (input : Input) (rest : List Input) :
    drawn clipboard t (input :: rest) =
      if input.draws then
        (t.receive clipboard input).frame :: drawn clipboard (t.receive clipboard input) rest
      else drawn clipboard (t.receive clipboard input) rest := by
  by_cases hdraws : input.draws <;> simp [drawn, history, hdraws]

theorem length_drawn (clipboard : Clipboard) (t : Terminal) (inputs : List Input) :
    (drawn clipboard t inputs).length = inputs.countP Input.draws := by
  induction inputs generalizing t with
  | nil => rfl
  | cons input rest ih =>
    rw [drawn_cons]
    by_cases hdraws : input.draws <;> simp [hdraws, ih]

theorem run_of_quit (clipboard : Clipboard) {t : Terminal} (h : t.app.mode = .quit)
    (inputs : List Input) : run clipboard t inputs = (t, []) := by
  cases inputs with
  | nil => rfl
  | cons input rest => rw [run, if_pos h]

theorem run_cons (clipboard : Clipboard) {t : Terminal} (h : t.app.mode ≠ .quit) (input : Input)
    (rest : List Input) :
    run clipboard t (input :: rest) =
      ((run clipboard (t.receive clipboard input) rest).1,
        if input.draws then
          (t.receive clipboard input).frame :: (run clipboard (t.receive clipboard input) rest).2
        else (run clipboard (t.receive clipboard input) rest).2) := by
  rw [run, if_neg h]

theorem mode_receive (clipboard : Clipboard) (t : Terminal) (input : Input) :
    (t.receive clipboard input).app.mode = .quit ↔
      t.app.mode = .quit ∨ input.quits t.app.config.keys = true := by
  cases input with
  | key press => simp [Terminal.receive, Input.quits, App.mode_handleWith]
  | resize size | other => simp [Terminal.receive, Input.quits]

theorem config_receive (clipboard : Clipboard) (t : Terminal) (input : Input) :
    (t.receive clipboard input).app.config = t.app.config := by
  cases input <;> rfl

theorem run_eq (clipboard : Clipboard) {t : Terminal} (hmode : t.app.mode ≠ .quit)
    (inputs : List Input) :
    run clipboard t inputs =
      ((upTo (Input.quits t.app.config.keys) inputs).foldl (Terminal.receive clipboard) t,
        drawn clipboard t (upTo (Input.quits t.app.config.keys) inputs)) := by
  induction inputs generalizing t with
  | nil => rfl
  | cons input rest ih =>
    have hnext := mode_receive clipboard t input
    rw [or_iff_right hmode] at hnext
    rw [run_cons clipboard hmode]
    cases hquits : input.quits t.app.config.keys with
    | true =>
      rw [upTo_of_stops hquits, drawn_cons, run_of_quit clipboard (hnext.2 hquits)]
      rfl
    | false =>
      have hstays : (t.receive clipboard input).app.mode ≠ .quit := by
        simp [hnext, hquits]
      rw [upTo_of_not_stops hquits, drawn_cons, ih hstays, config_receive]
      rfl

end Interaction

namespace Session

theorem Proper.subtotal_eq_nil_iff {s : Session} (h : s.Proper) :
    s.subtotal = [] ↔ s.expression.tokens = [] := by
  obtain ⟨d, hd, rfl⟩ | ⟨x, rfl⟩ := h.cases
  · exact (upToDate_draft hd).subtotal_eq_nil_iff
  · exact (upToDate_result x).subtotal_eq_nil_iff

end Session

namespace CommandLine

def printed (display : DisplaySettings) (s : Session) : List Char :=
  s.mainText ++ ['\n'] ++
    if display.showSubtotal ∧ s.expression.tokens ≠ [] then
      "= ".toList ++ s.subtotal ++ ['\n']
    else []

theorem report_view {app : App} (h : app.session.Proper) :
    report app.view = printed app.config.display app.session := by
  have hsubtotal := h.subtotal_eq_nil_iff
  by_cases hshown : app.config.display.showSubtotal <;>
    by_cases htokens : app.session.expression.tokens = []
  all_goals simp [report, printed, App.view, hshown, htokens, hsubtotal]

end CommandLine

namespace Interaction
open App (scriptEvents)

/-- What a script and a terminal on which it is typed have in common, each with a clipboard of
its own. Both handle the events up to the one that quits, and a frame is drawn at the start and
behind each key and each change of size that is read. The program prints for the script what
the terminal ends with. -/
structure Agree (config : Config) (script : List Char) (inputs : List Input) (size : Screen.Size)
    (clipboard clipboard' : Clipboard) : Prop where
  runScript_eq : (App.start config).runScript clipboard script =
    (App.start config).handleAll clipboard (scriptEvents config.keys script)
  run_eq : (run clipboard' ⟨.start config, size⟩ inputs).1.app =
    (App.start config).handleAll clipboard' (scriptEvents config.keys script)
  alike : App.Alike ((App.start config).runScript clipboard script)
    (run clipboard' ⟨.start config, size⟩ inputs).1.app
  types : Types (upTo config.keys.quits script) (upTo (Input.quits config.keys) inputs)
  frames_eq : frames clipboard' ⟨.start config, size⟩ inputs =
    Terminal.frame ⟨.start config, size⟩ ::
      drawn clipboard' ⟨.start config, size⟩ (upTo (Input.quits config.keys) inputs)
  length_frames : (frames clipboard' ⟨.start config, size⟩ inputs).length =
    1 + (upTo (Input.quits config.keys) inputs).countP Input.draws
  report_eq : CommandLine.report ((App.start config).runScript clipboard script).view =
    CommandLine.printed config.display ((App.start config).runScript clipboard script).session
  start_eq : ∀ (opens : List Char → Bool) (arguments : List (List Char))
    (a : CommandLine.Arguments),
    CommandLine.parse arguments = .ok a → a.eval = some script → a.config = config →
      a.canLog opens = true → CommandLine.start clipboard opens arguments = .finish
        ⟨0, CommandLine.printed config.display
          ((App.start config).runScript clipboard script).session⟩

/-- A script and a terminal on which it is typed agree. -/
theorem agree_of_types (config : Config) (size : Screen.Size) (clipboard clipboard' : Clipboard)
    {script : List Char} {inputs : List Input} (h : Types script inputs) :
    Agree config script inputs size clipboard clipboard' := by
  have hmode : (App.start config).mode ≠ .quit := by simp [App.start]
  have hscript : (App.start config).runScript clipboard script =
      (App.start config).handleAll clipboard (scriptEvents config.keys script) :=
    App.runScript_eq_handleAll clipboard hmode script
  have hrun : run clipboard' ⟨.start config, size⟩ inputs =
      ((upTo (Input.quits config.keys) inputs).foldl (Terminal.receive clipboard')
          ⟨.start config, size⟩,
        drawn clipboard' ⟨.start config, size⟩ (upTo (Input.quits config.keys) inputs)) :=
    Interaction.run_eq clipboard' hmode inputs
  have hterminal : (run clipboard' ⟨.start config, size⟩ inputs).1.app =
      (App.start config).handleAll clipboard' (scriptEvents config.keys script) := by
    rw [hrun]
    exact (h.upTo config.keys).app_foldl_receive clipboard' _
  have hreport : CommandLine.report ((App.start config).runScript clipboard script).view =
      CommandLine.printed config.display
        ((App.start config).runScript clipboard script).session := by
    rw [hscript, CommandLine.report_view (App.proper_handleAll clipboard Session.proper_fresh _),
      App.config_handleAll]
    rfl
  have hframes : frames clipboard' ⟨.start config, size⟩ inputs =
      Terminal.frame ⟨.start config, size⟩ ::
        drawn clipboard' ⟨.start config, size⟩ (upTo (Input.quits config.keys) inputs) := by
    rw [frames, hrun]
  exact {
    runScript_eq := hscript
    run_eq := hterminal
    alike := by
      rw [hscript, hterminal]
      exact App.Alike.handleAll ⟨rfl, rfl, rfl⟩ clipboard clipboard' _
    types := h.upTo config.keys
    frames_eq := hframes
    length_frames := by rw [hframes, List.length_cons, length_drawn, Nat.add_comm]
    report_eq := hreport
    start_eq := fun opens arguments a hparse heval hconfig hlog => by
      subst hconfig
      simp only [CommandLine.start, hparse, hlog, if_true, heval, hreport] }

/-- Equals quits where it is bound to that, although it is a key of the calculator and
bound to clear as well. With the bindings that a command line gives, the program prints
what a terminal ends with. -/
theorem agree_of_types_equals :
    let copied : Clipboard := fun _ => .copied
    let failed : Clipboard := fun _ => .failed []
    let config : Config := { keys := { quit := '=', clear := '=' } }
    let script := ['7', '+', '=', '2']
    let inputs : List Input := [.key ⟨.char '7', false, .press⟩, .resize ⟨40, 6⟩, .other,
      .key ⟨.char '+', false, .press⟩, .key ⟨.char '=', false, .press⟩, .resize ⟨50, 6⟩,
      .key ⟨.char '2', false, .press⟩]
    let ended := (run failed ⟨.start config, ⟨80, 24⟩⟩ inputs).1
    let sum : List Input := [.key ⟨.char '7', false, .press⟩, .key ⟨.char '+', false, .press⟩,
      .key ⟨.char '2', false, .press⟩]
    Types script inputs ∧ Agree config script inputs ⟨80, 24⟩ copied failed ∧
      ended.app.mode = .quit ∧ ended.app.session.mainText = "7+".toList ∧
        (frames failed ⟨.start config, ⟨80, 24⟩⟩ inputs).length = 5 ∧
      Types "7+2".toList sum ∧ Agree {} "7+2".toList sum ⟨80, 24⟩ copied failed ∧
        (run failed ⟨.start {}, ⟨80, 24⟩⟩ sum).1.app.session.mainText = "7+2".toList ∧
          CommandLine.start copied (fun _ => false) ["--eval".toList, "7+2".toList] =
            .finish ⟨0, "7+2\n= 7\n".toList⟩ := by
  intro copied failed config script inputs ended sum
  have htypes : Types script inputs :=
    .char '7' (.resize _ (.other (.char '+' (.char '=' (.resize _ (.char '2' .nil))))))
  have hagree := agree_of_types config ⟨80, 24⟩ copied failed htypes
  have hmode : ended.app.mode = .quit := by decide +kernel
  have hmain : ended.app.session.mainText = "7+".toList := by decide +kernel
  have hsum : Types "7+2".toList sum := .char '7' (.char '+' (.char '2' .nil))
  have hplain := agree_of_types {} ⟨80, 24⟩ copied failed hsum
  have hended : (run failed ⟨.start {}, ⟨80, 24⟩⟩ sum).1.app.session.mainText = "7+2".toList := by
    decide +kernel
  have hstart := hplain.start_eq (fun _ => false) ["--eval".toList, "7+2".toList]
    { eval := some "7+2".toList } (by decide +kernel) rfl rfl (by decide +kernel)
  have hprinted : CommandLine.printed {} ((App.start {}).runScript copied "7+2".toList).session =
      "7+2\n= 7\n".toList := by decide +kernel
  exact ⟨htypes, hagree, hmode, hmain, hagree.length_frames, hsum, hplain, hended,
    hstart.trans (by rw [← hprinted])⟩

end Interaction
end PocketCalc
