import PocketCalc.Screen.Frame

/-!
# Interaction

The application on a terminal. A frame is drawn at the start and after every key and every change of
size, also for a key without a meaning and for the one that quits. Other reports of the terminal
draw nothing, and after the quitting key nothing is read any more.
-/
namespace PocketCalc.Interaction
open Screen

inductive Input where
  | key (press : KeyPress)
  | resize (size : Size)
  | other
deriving DecidableEq, Repr

/-- An application on a terminal of some size. -/
structure Terminal where
  app : App
  size : Size
deriving DecidableEq

namespace Terminal

def frame (t : Terminal) : Frame := Screen.frame t.size t.app.config t.app.view

def receive (clipboard : Clipboard) (t : Terminal) : Input → Terminal
  | .key press => { t with app := t.app.handleWith clipboard (t.app.config.keys.eventOfKey press) }
  | .resize size => { t with size }
  | .other => t

end Terminal

/-- Whether a report makes the application draw. -/
def Input.draws : Input → Bool
  | .key _ | .resize _ => true
  | .other => false

/-- The terminal after some reports, and the frames drawn for them. -/
def run (clipboard : Clipboard) (t : Terminal) : List Input → Terminal × List Frame
  | [] => (t, [])
  | input :: rest =>
    if t.app.mode = .quit then (t, [])
    else
      let t := t.receive clipboard input
      let (last, frames) := run clipboard t rest
      (last, if input.draws then t.frame :: frames else frames)

/-- All frames from the start of the application on. -/
def frames (clipboard : Clipboard) (t : Terminal) (inputs : List Input) : List Frame :=
  t.frame :: (run clipboard t inputs).2

end PocketCalc.Interaction
