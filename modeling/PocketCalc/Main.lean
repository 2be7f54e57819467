import PocketCalc.CommandLine.Program
import PocketCalc.Interaction

/-!
# The command

The outer layer of the program: it opens the log file, prints what the program answers, and shows
frames on the terminal for the characters it reads.
-/
namespace PocketCalc
open Screen

def opensForAppending (path : String) : IO Bool := do
  try
    let _ ← IO.FS.Handle.mk path .append
    pure true
  catch _ => pure false

def colorCode (kind : Nat) : Color → String
  | .standard => s!"\x1b[{kind + 1}m"
  | .rgb red green blue => s!"\x1b[{kind};2;{red};{green};{blue}m"

def drawnRun (run : Run) : String :=
  let weight := if run.style.bold then "\x1b[1m" else "\x1b[22m"
  weight ++ colorCode 38 run.style.foreground ++ colorCode 48 run.style.background
    ++ String.ofList run.text

def drawnFrame (frame : Frame) : String :=
  let rows := frame.map fun row => String.join ((Row.runs row).map drawnRun)
  "\x1b[H" ++ String.intercalate "\r\n" rows

def keyOfChar (c : Char) : KeyPress :=
  match c with
  | '\x03' => { code := .char 'c', control := true }
  | '\x1b' => { code := .escape }
  | '\x7f' => { code := .backspace }
  | '\r' | '\n' => { code := .enter }
  | c => { code := .char c }

/-- The size of the terminal as the environment gives it. -/
def terminalSize : IO Size := do
  let columns := ((← IO.getEnv "COLUMNS").bind String.toNat?).getD 80
  let rows := ((← IO.getEnv "LINES").bind String.toNat?).getD 24
  pure ⟨columns, rows⟩

def noClipboard : Clipboard := fun _ => .failed "Clipboard error: Failed to access clipboard".toList

/-- Shows frames until the application quits or nothing is left to read. -/
partial def interact (input output : IO.FS.Stream) (terminal : Interaction.Terminal) : IO Unit := do
  output.putStr (drawnFrame terminal.frame)
  output.flush
  if terminal.app.mode = .quit then pure ()
  else
    let line ← input.getLine
    if line.isEmpty then pure ()
    else
      let keys := line.toList.map fun c => Interaction.Input.key (keyOfChar c)
      interact input output (Interaction.run noClipboard terminal keys).1

end PocketCalc

open PocketCalc in
def main (arguments : List String) : IO UInt32 := do
  let texts := arguments.map String.toList
  let opens ← match CommandLine.parse texts with
    | .ok a =>
      match a.hasValidFilter, a.logFile with
      | true, some path => opensForAppending (String.ofList path)
      | _, _ => pure true
    | .error _ => pure true
  match CommandLine.start noClipboard (fun _ => opens) texts with
  | .finish outcome =>
    (← IO.getStdout).putStr (String.ofList outcome.output)
    pure (UInt32.ofNat outcome.code)
  | .interact app =>
    let output ← IO.getStdout
    output.putStr "\x1b[?1049h"
    interact (← IO.getStdin) output ⟨app, ← terminalSize⟩
    output.putStr "\x1b[?1049l"
    pure 0
