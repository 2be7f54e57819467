import PocketCalc.App
import PocketCalc.Screen.Lines

/-!
# Frames

A frame fills the screen: a border with the title in its upper edge, the expression and the subtotal
in the middle and a footer at the bottom. On a small screen the parts give way one after the other,
the footer last.
-/
namespace PocketCalc.Screen

structure Size where
  columns : Nat
  rows : Nat
deriving DecidableEq, Repr

abbrev Frame := List Row

def title : List Char := " tallykey ".toList

/-- The style of a frame where nothing else is drawn. -/
def frameStyle : Style := ⟨theme.dimmed, theme.background, false⟩

/-- A row of single characters in one style. -/
def plainRow (s : Style) (text : List Char) : Row := text.map fun c => ⟨[c], s⟩

/-- A row between its two ends. The left end is the one that stays when there is a single column. -/
def enclose (columns : Nat) (left right : Char) (inner : Row) : Row :=
  match columns with
  | 0 => []
  | 1 => plainRow frameStyle [left]
  | _ => plainRow frameStyle [left] ++ inner ++ plainRow frameStyle [right]

/-- The upper edge with the title, which is cut where the edge ends. -/
def topEdge (columns : Nat) : Row :=
  let shown := title.take (columns - 2)
  enclose columns '┌' '┐'
    (plainRow frameStyle (shown ++ List.replicate (columns - 2 - shown.length) '─'))

def bottomEdge (columns : Nat) : Row :=
  enclose columns '└' '┘' (plainRow frameStyle (List.replicate (columns - 2) '─'))

/-- The footer: the status if there is one, and otherwise the help on keys unless it is hidden. -/
def footerText (config : Config) (view : View) : List Char :=
  match view.status with
  | some status => status
  | none => if view.showKeyHelp then config.keys.help else []

def innerRows (size : Size) (config : Config) (view : View) : List Row :=
  let width := size.columns - 2
  let main := mainRow frameStyle width view.mainText
  let subtotal := subtotalRow frameStyle width view.subtotal
  let footer := footerRow frameStyle width (footerText config view)
  let empty := Row.blank width frameStyle
  match size.rows - 2 with
  | 0 => []
  | 1 => [footer]
  | 2 => [main, footer]
  | spare + 3 =>
    List.replicate ((spare + 1) / 2) empty ++ [main, subtotal]
      ++ List.replicate (spare / 2) empty ++ [footer]

/-- The frame of a view. A single row is the upper edge. -/
def frame (size : Size) (config : Config) (view : View) : Frame :=
  match size.rows with
  | 0 => []
  | 1 => [topEdge size.columns]
  | _ =>
    topEdge size.columns :: (innerRows size config view).map (enclose size.columns '│' '│')
      ++ [bottomEdge size.columns]

end PocketCalc.Screen
