import PocketCalc.Text.Blank

/-!
# Events

What a key or a character asks of the calculator. Four characters are bound to commands, and the
bindings can be chosen freely; a character bound more than once has the first of its commands.
Everything else that is typed goes to the session.
-/
namespace PocketCalc

/-- A request to the calculator, or none behind a key without a meaning. -/
inductive Event where
  | input (c : Char)
  | undo
  | clear
  | copy
  | quit
  | nothing
deriving DecidableEq, Repr

/-- The characters bound to commands. -/
structure KeyBindings where
  quit : Char := 'q'
  clear : Char := 'c'
  copy : Char := 'y'
  undo : Char := '<'
deriving DecidableEq, Repr

/-- The key that is pressed, as a terminal reports it. -/
inductive KeyCode where
  | char (c : Char)
  | enter
  | backspace
  | delete
  | escape
  | other
deriving DecidableEq, Repr

inductive KeyAction where
  | press
  | release
  | hold
deriving DecidableEq, Repr

/-- A key event of a terminal. -/
structure KeyPress where
  code : KeyCode
  control : Bool := false
  action : KeyAction := .press
deriving DecidableEq, Repr

namespace KeyBindings

/-- The event of a character, typed or read from a script. -/
def eventOfChar (keys : KeyBindings) (c : Char) : Event :=
  if c = keys.quit then .quit
  else if c = keys.clear then .clear
  else if c = keys.copy then .copy
  else if c = keys.undo then .undo
  else if c = '\n' ∨ c = '\r' then .input '='
  else if Text.isBlank c then .nothing
  else .input c

/-- The event of a key. Control with `c` quits whatever the bindings are. -/
def eventOfKey (keys : KeyBindings) (key : KeyPress) : Event :=
  if key.action ≠ .press then .nothing
  else
    match key.code with
    | .char c => if c = 'c' ∧ key.control then .quit else keys.eventOfChar c
    | .enter => .input '='
    | .backspace | .delete => .undo
    | .escape => .clear
    | .other => .nothing

def help (keys : KeyBindings) : List Char :=
  keys.quit :: " quit · ".toList ++ keys.clear :: "/Esc clear · ".toList ++ keys.copy ::
    " copy · ⌫/".toList ++ keys.undo :: " undo · Enter =".toList

/-- A plain key is read like its character in a script. -/
@[simp] theorem eventOfKey_char (keys : KeyBindings) (c : Char) :
    keys.eventOfKey ⟨.char c, false, .press⟩ = keys.eventOfChar c := by simp [eventOfKey]

end KeyBindings
end PocketCalc
