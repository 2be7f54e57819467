import PocketCalc.App
import PocketCalc.CommandLine.Arguments
import PocketCalc.CommandLine.LogFilter

/-!
# The program

What the program does for its arguments: it answers a question about itself, refuses, reads a script
and prints the outcome, or goes on with a terminal. Logging is set up before anything else is done.
-/
namespace PocketCalc.CommandLine

def helpLines : List String := [
  "Calculator driven one key at a time",
  "",
  "Usage: tallykey [OPTIONS]",
  "",
  "Options:",
  "  -e, --eval <KEYS>         Feed these keys without opening the terminal UI and print "
    ++ "the result. `<` is backspace and `c` clears",
  "      --log-file <PATH>     Append logs to this file",
  "      --log-level <FILTER>  Log filter, e.g. `debug` or `tallykey::calc=trace`. "
    ++ "Defaults to RUST_LOG",
  "      --no-subtotal         Hide the running subtotal",
  "      --no-help             Hide the key help line",
  "  -h, --help                Print help",
  "  -V, --version             Print version"]

def helpText : List Char := helpLines.flatMap fun line => line.toList ++ ['\n']

def versionText : List Char := "tallykey 0.1.0\n".toList

namespace Arguments

def config (a : Arguments) : Config where
  display := { showSubtotal := !a.noSubtotal, showKeyHelp := !a.noHelp }

/-- Whether a script is read instead of the terminal. -/
def isHeadless (a : Arguments) : Bool := a.eval.isSome

def hasValidFilter (a : Arguments) : Bool :=
  match LogFilter.check (a.logLevel.getD []) with
  | .ok _ => true
  | .error _ => false

/-- Whether logging can be set up: the filter is valid, and the file can be opened
if there is one. -/
def canLog (a : Arguments) (opens : List Char → Bool) : Bool :=
  a.hasValidFilter && a.logFile.all opens

end Arguments

/-- How a run of the program ends. -/
structure Outcome where
  code : Nat
  output : List Char
deriving DecidableEq, Repr

/-- What the program does: it is done, or it goes on with a terminal. -/
inductive Action where
  | finish (outcome : Outcome)
  | interact (app : App)
deriving DecidableEq

/-- The lines for what an application shows at its end. -/
def report (view : View) : List Char :=
  view.mainText ++ ['\n'] ++
    (if view.subtotal = [] then [] else '=' :: ' ' :: view.subtotal ++ ['\n'])

def Stop.outcome : Stop → Outcome
  | .help => ⟨0, helpText⟩
  | .version => ⟨0, versionText⟩
  | .usage _ => ⟨2, []⟩

/-- What the program does for its arguments, with the log files that can be opened. -/
def start (clipboard : Clipboard) (opens : List Char → Bool)
    (arguments : List (List Char)) : Action :=
  match parse arguments with
  | .error stop => .finish stop.outcome
  | .ok a =>
    if a.canLog opens then
      let app := App.start a.config
      match a.eval with
      | some keys => .finish ⟨0, report (app.runScript clipboard keys).view⟩
      | none => .interact app
    else .finish ⟨1, []⟩

end PocketCalc.CommandLine
