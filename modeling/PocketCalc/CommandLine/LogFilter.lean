import PocketCalc.Text.Alphanumeric
import PocketCalc.Text.Blank

/-!
# Log filters

A log filter is a list of directives parted by commas. A directive names a level, or a target with
an optional span in brackets, fields of the span in braces, and a level behind an equals sign. Only
the form of a filter matters to the calculator: a filter of the wrong form keeps it from starting.
-/
namespace PocketCalc.CommandLine

inductive FilterError where
  | invalidDirective
  | unknownLevel
deriving DecidableEq, Repr

namespace FilterError

def message : FilterError → List Char
  | invalidDirective => "invalid filter directive".toList
  | unknownLevel =>
    ("error parsing level filter: expected one of \"off\", \"error\", \"warn\", \"info\", "
      ++ "\"debug\", \"trace\", or a number 0-5").toList

end FilterError

namespace LogFilter

/-- The place in a directive that has been reached: the name of a level or a target, the name of a
span, one of its fields, which may still be empty, behind the fields, behind the span, or a level
that begins at the given byte. -/
inductive Place where
  | start
  | name
  | span
  | field (empty : Bool)
  | fields
  | target
  | level (first : Nat)
deriving DecidableEq, Repr

def canBegin (c : Char) : Bool :=
  c = '-' || c = ':' || c = '_' || Text.isAlphanumeric c

/-- The place after one more character, whose end is at the given byte. -/
def step (place : Place) (c : Char) (next : Nat) : Except FilterError Place :=
  match place with
  | .start =>
    if c = '[' then .ok .span else if canBegin c then .ok .name else .error .invalidDirective
  | .name => .ok (if c = '=' then .level next else if c = '[' then .span else .name)
  | .span => .ok (if c = ']' then .target else if c = '\x7b' then .field true else .span)
  | .field empty =>
    if c = '\x7d' then (if empty then .error .invalidDirective else .ok .fields)
    else .ok (.field false)
  | .fields => if c = ']' then .ok .target else .error .invalidDirective
  | .target => if c = '=' then .ok (.level next) else .error .invalidDirective
  | .level first => .ok (.level first)

/-- The place at the end of a text that begins at the given byte. -/
def scan (place : Place) (position : Nat) : List Char → Except FilterError Place
  | [] => .ok place
  | c :: rest =>
    match step place c (position + c.utf8Size) with
    | .ok place => scan place (position + c.utf8Size) rest
    | .error e => .error e

def dropBytes : Nat → List Char → List Char
  | 0, text => text
  | _, [] => []
  | n, c :: rest => dropBytes (n - c.utf8Size) rest

def levelNames : List String := ["off", "error", "warn", "info", "debug", "trace"]

/-- Whether a text is a number from zero to five, with as many zeros in front as there may be. -/
def isLevelNumber (text : List Char) : Bool :=
  let digits := match text with
    | '+' :: rest => rest
    | _ => text
  digits ≠ [] && digits.all Char.isDigit &&
    match digits.dropWhile (· = '0') with
    | [] => true
    | [d] => d ≤ '5'
    | _ => false

/-- Whether a text is a level. No text at all stands for one too. -/
def isLevel (text : List Char) : Bool :=
  text = [] || isLevelNumber text
    || levelNames.any fun name => name.toList = text.map Char.toLower

def trimmed (text : List Char) : List Char :=
  ((text.dropWhile Text.isBlank).reverse.dropWhile Text.isBlank).reverse

/-- Checks a directive. Places are found in the trimmed text, but the level is then read from the
directive as it stands, blanks included. -/
def checkDirective (directive : List Char) : Except FilterError Unit :=
  match scan .start 0 (trimmed directive) with
  | .error e => .error e
  | .ok .name | .ok .target => .ok ()
  | .ok (.level first) =>
    if isLevel (dropBytes first directive) then .ok () else .error .unknownLevel
  | .ok _ => .error .invalidDirective

def splitCommas : List Char → List (List Char)
  | [] => [[]]
  | c :: rest =>
    if c = ',' then [] :: splitCommas rest
    else
      match splitCommas rest with
      | [] => [[c]]
      | part :: parts => (c :: part) :: parts

/-- Checks a filter. Empty directives are skipped. -/
def check (filter : List Char) : Except FilterError Unit :=
  ((splitCommas filter).filter (· ≠ [])).forM checkDirective

def message (e : FilterError) : List Char := "Logging setup failed: ".toList ++ e.message

end LogFilter
end PocketCalc.CommandLine
