import PocketCalc.Event
import PocketCalc.Session

/-!
# The calculator application

The application holds a session, a mode, the settings it was started with and the message of the
last copy. Copying to the clipboard happens outside: its outcome is handed in with the event.
-/
namespace PocketCalc

/-- What is shown beside the expression. -/
structure DisplaySettings where
  showSubtotal : Bool := true
  showKeyHelp : Bool := true
deriving DecidableEq, Repr

structure Config where
  keys : KeyBindings := {}
  display : DisplaySettings := {}
deriving DecidableEq, Repr

inductive Mode where
  | calculating
  | quit
deriving DecidableEq, Repr

inductive CopyOutcome where
  | copied
  | failed (message : List Char)
deriving DecidableEq, Repr

/-- A clipboard as the outcome it has for each text. -/
abbrev Clipboard := List Char → CopyOutcome

/-- The application between two events. The status is the message of the last copy, if no other
event with a meaning came after it. -/
structure App where
  mode : Mode
  session : Session
  config : Config
  status : Option (List Char)
deriving DecidableEq

/-- What the application shows. The subtotal is empty when there is none or it is hidden. -/
structure View where
  mode : Mode
  mainText : List Char
  subtotal : List Char
  status : Option (List Char)
  showKeyHelp : Bool
deriving DecidableEq

def CopyOutcome.message (text : List Char) : CopyOutcome → List Char
  | copied => "Copied ".toList ++ text
  | failed reason => reason

namespace Session

/-- The effect of an event on the session. -/
def handle (s : Session) : Event → Session
  | .input c => s.type c
  | .undo => s.undo
  | .clear => s.reset
  | .copy | .quit | .nothing => s

end Session

namespace App

def start (config : Config) : App := ⟨.calculating, .fresh, config, none⟩

def nextMode (mode : Mode) : Event → Mode
  | .quit => .quit
  | _ => mode

/-- The status after an event. -/
def nextStatus (app : App) (outcome : CopyOutcome) : Event → Option (List Char)
  | .copy => some (outcome.message app.session.mainText)
  | .nothing => app.status
  | _ => none

/-- The application after an event. The outcome matters for a copy only. -/
def handle (app : App) (event : Event) (outcome : CopyOutcome) : App where
  mode := nextMode app.mode event
  session := app.session.handle event
  config := app.config
  status := app.nextStatus outcome event

@[simp] theorem session_handle (app : App) (event : Event) (outcome : CopyOutcome) :
    (app.handle event outcome).session = app.session.handle event := rfl

@[simp] theorem config_handle (app : App) (event : Event) (outcome : CopyOutcome) :
    (app.handle event outcome).config = app.config := rfl

/-- The application after an event, copying to the given clipboard. -/
def handleWith (clipboard : Clipboard) (app : App) (event : Event) : App :=
  app.handle event (clipboard app.session.mainText)

/-- Reads a script of keys up to the one that quits. An application that has
quit still reads one. -/
def runScript (clipboard : Clipboard) (app : App) : List Char → App
  | [] => app
  | c :: rest =>
    let app := app.handleWith clipboard (app.config.keys.eventOfChar c)
    if app.mode = .quit then app else runScript clipboard app rest

/-- What the application shows. -/
def view (app : App) : View where
  mode := app.mode
  mainText := app.session.mainText
  subtotal := if app.config.display.showSubtotal then app.session.subtotal else []
  status := app.status
  showKeyHelp := app.config.display.showKeyHelp

end App
end PocketCalc
