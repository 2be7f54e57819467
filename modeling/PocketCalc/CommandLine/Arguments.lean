/-!
# Arguments

The options of the program. Arguments are read from left to right. The value of an option is its own
argument or is attached to it, and is checked when the next known option comes or the arguments end,
so an unknown argument behind it is reported first. Keys may begin with a hyphen, so `--eval` takes
whatever argument follows.
-/
namespace PocketCalc.CommandLine

/-- An option with a value. -/
inductive ValueOption where
  | eval
  | logFile
  | logLevel
deriving DecidableEq, Repr

inductive Switch where
  | noSubtotal
  | noHelp
  | help
  | version
deriving DecidableEq, Repr

/-- What is wrong with the arguments. A value is invalid if it is missing, or empty where it must
not be, and a conflict is an option that is given twice. -/
inductive UsageError where
  | unknownArgument
  | invalidValue
  | argumentConflict
  | tooManyValues
deriving DecidableEq, Repr

/-- Why reading stops before the program starts. -/
inductive Stop where
  | help
  | version
  | usage (error : UsageError)
deriving DecidableEq, Repr

structure Arguments where
  eval : Option (List Char) := none
  logFile : Option (List Char) := none
  logLevel : Option (List Char) := none
  noSubtotal : Bool := false
  noHelp : Bool := false
deriving DecidableEq, Repr

/-- An option of either kind. -/
inductive Known where
  | value (option : ValueOption)
  | switch (switch : Switch)
deriving DecidableEq, Repr

def ofLongName? (name : List Char) : Option Known :=
  if name = "eval".toList then some (.value .eval)
  else if name = "log-file".toList then some (.value .logFile)
  else if name = "log-level".toList then some (.value .logLevel)
  else if name = "no-subtotal".toList then some (.switch .noSubtotal)
  else if name = "no-help".toList then some (.switch .noHelp)
  else if name = "help".toList then some (.switch .help)
  else if name = "version".toList then some (.switch .version)
  else none

def ofShortName? : Char → Option Known
  | 'e' => some (.value .eval)
  | 'h' => some (.switch .help)
  | 'V' => some (.switch .version)
  | _ => none

namespace Arguments

def get? (a : Arguments) : ValueOption → Option (List Char)
  | .eval => a.eval
  | .logFile => a.logFile
  | .logLevel => a.logLevel

def put (a : Arguments) (value : List Char) : ValueOption → Arguments
  | .eval => { a with eval := some value }
  | .logFile => { a with logFile := some value }
  | .logLevel => { a with logLevel := some value }

/-- Gives an option its value, if there is one, for the first time. The name of a
file is not empty. -/
def set (a : Arguments) (option : ValueOption) : Option (List Char) → Except Stop Arguments
  | none => .error (.usage .invalidValue)
  | some value =>
    if (a.get? option).isSome then .error (.usage .argumentConflict)
    else if option = .logFile ∧ value = [] then .error (.usage .invalidValue)
    else .ok (a.put value option)

/-- Turns a switch on for the first time. -/
def turnOn (a : Arguments) : Switch → Except Stop Arguments
  | .help => .error .help
  | .version => .error .version
  | .noSubtotal =>
    if a.noSubtotal then .error (.usage .argumentConflict) else .ok { a with noSubtotal := true }
  | .noHelp => if a.noHelp then .error (.usage .argumentConflict) else .ok { a with noHelp := true }

end Arguments

/-- The state between two arguments: an option may still wait for its value, or for
the check of it. -/
structure Reading where
  arguments : Arguments := {}
  pending : Option (ValueOption × Option (List Char)) := none
deriving DecidableEq, Repr

namespace Reading

/-- Checks the option that waits, if any. -/
def settle (r : Reading) : Except Stop Arguments :=
  match r.pending with
  | none => .ok r.arguments
  | some (option, value) => r.arguments.set option value

/-- The option that takes the next argument as its value. -/
def awaiting? (r : Reading) : Option ValueOption :=
  match r.pending with
  | some (option, none) => some option
  | _ => none

/-- An option with a value attached, or with the value to come. -/
def readOption (r : Reading) (option : ValueOption) (attached : Option (List Char)) :
    Except Stop Reading := do
  let arguments ← r.settle
  match attached with
  | none => pure { arguments, pending := some (option, none) }
  | some value => pure { arguments := ← arguments.set option (some value) }

def readSwitch (r : Reading) (switch : Switch) : Except Stop Reading := do
  let arguments ← r.settle
  pure { arguments := ← arguments.turnOn switch }

/-- What stands behind two hyphens: a name, and a value behind an equals sign. -/
def readLong (r : Reading) (text : List Char) : Except Stop Reading :=
  let name := text.takeWhile (· ≠ '=')
  let attached := if '=' ∈ text then some ((text.dropWhile (· ≠ '=')).drop 1) else none
  match ofLongName? name, attached with
  | none, _ => .error (.usage .unknownArgument)
  | some (.value option), _ => r.readOption option attached
  | some (.switch _), some _ => .error (.usage .tooManyValues)
  | some (.switch switch), none => r.readSwitch switch

/-- The value attached to a short option, with or without an equals sign. -/
def attachedValue? : List Char → Option (List Char)
  | [] => none
  | '=' :: value => some value
  | value => some value

/-- What stands behind one hyphen: switches, and at most one option with a value at the end. -/
def readShort (r : Reading) : List Char → Except Stop Reading
  | [] => .ok r
  | c :: rest =>
    match ofShortName? c with
    | none => .error (.usage .unknownArgument)
    | some (.value option) => r.readOption option (attachedValue? rest)
    | some (.switch switch) =>
      match r.readSwitch switch with
      | .error stop => .error stop
      | .ok r => readShort r rest

/-- An argument that is no option: the value of an option that waits for one. -/
def readValue (r : Reading) (text : List Char) : Except Stop Reading :=
  match r.awaiting? with
  | none => .error (.usage .unknownArgument)
  | some option => .ok { r with pending := some (option, some text) }

/-- Reads arguments to their end. Two hyphens alone end the options. -/
def readAll (r : Reading) : List (List Char) → Except Stop Arguments
  | [] => r.settle
  | argument :: rest =>
    if r.awaiting? = some .eval then readAll { r with pending := some (.eval, some argument) } rest
    else
      match argument with
      | ['-', '-'] => if rest = [] then r.settle else .error (.usage .unknownArgument)
      | '-' :: '-' :: text => do readAll (← r.readLong text) rest
      | '-' :: c :: text => do readAll (← r.readShort (c :: text)) rest
      | text => do readAll (← r.readValue text) rest

end Reading

def parse (arguments : List (List Char)) : Except Stop Arguments := Reading.readAll {} arguments

end PocketCalc.CommandLine
