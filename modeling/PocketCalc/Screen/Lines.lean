import PocketCalc.Operator
import PocketCalc.Screen.Row
import PocketCalc.Screen.Tail

/-!
# The lines of the calculator

The expression and the subtotal are aligned to the right on the theme's background, the footer is
centered. A cluster takes the cell it starts in, and the other cells of a wide one stay blank.
Control characters are not drawn.
-/
namespace PocketCalc.Screen
open Text

structure Glyph where
  symbol : List Char
  style : Style
deriving DecidableEq

namespace Glyph

/-- Whether a character is a sound mark of narrow Japanese letters. -/
def isSoundMark (c : Char) : Bool := within 0xFF9E 0xFF9F c.toNat

/-- The columns of a glyph. A sound mark gets a column more than its own, so that
none is drawn over. -/
def columns (g : Glyph) : Nat := Text.columns .edition18 g.symbol + g.symbol.countP isSoundMark

end Glyph

/-- Whether a character is a control, which no terminal shows. -/
def isControl (c : Char) : Bool := c.toNat < 0x20 || within 0x7F 0x9F c.toNat

def glyphs (s : Style) (text : List Char) : List Glyph :=
  ((clusters text).filter fun cluster => !cluster.any isControl).map fun cluster => ⟨cluster, s⟩

/-- The glyphs that fit into a row. One wider than the whole row is passed over, and the first that
does not fit into what is left ends the row. -/
def fitting (width room : Nat) : List Glyph → List Glyph
  | [] => []
  | g :: rest =>
    if width < g.columns then fitting width room rest
    else if room < g.columns then []
    else g :: fitting width (room - g.columns) rest

/-- The cells of a glyph. A glyph without a width has none. -/
def Glyph.cells (base : Style) (g : Glyph) : Row :=
  if g.columns = 0 then []
  else ⟨g.symbol, g.style⟩ :: Row.blank (g.columns - 1) base

def alignRight (base : Style) (width : Nat) (list : List Glyph) : Row :=
  let cells := (fitting width width list).flatMap (Glyph.cells base)
  Row.blank (width - cells.length) base ++ cells

/-- How a character of the expression is drawn. A minus may be a sign, so it is not set off. -/
def mainPaint (c : Char) : Paint where
  foreground := some (if Operator.isSymbol c && c != '-' then theme.operator else theme.text)
  bold := true

/-- How styled text is made into glyphs, and how glyphs are drawn at the right end of a row. -/
structure Canvas where
  glyphs : Style → List Char → List Glyph
  alignRight : Style → Nat → List Glyph → Row

def Canvas.mainRow (K : Canvas) (T : Typesetting) (base : Style) (width : Nat)
    (text : List Char) : Row :=
  let base := base.paint { background := some theme.background }
  K.alignRight base width
    ((T.visibleTail text width).flatMap fun c => K.glyphs (base.paint (mainPaint c)) [c])

def canvas : Canvas := ⟨glyphs, alignRight⟩

def mainRow (base : Style) (width : Nat) (text : List Char) : Row :=
  canvas.mainRow tailSetting base width text

/-- The text of the subtotal line, empty when there is no subtotal. -/
def subtotalText (subtotal : List Char) (width : Nat) : List Char :=
  if subtotal = [] then [] else visibleTail ('=' :: ' ' :: subtotal) width

def subtotalRow (base : Style) (width : Nat) (subtotal : List Char) : Row :=
  let base := base.paint
    { foreground := some theme.dimmed, background := some theme.background }
  let line := (subtotalText subtotal width).takeWhile (· ≠ '\n')
  alignRight base width (glyphs base line)

/-- Adds glyphs to the cells of a bare line, as far as there is room. A glyph without a width is
added to the cell in front of it, or to the first one. -/
def bareCells (room : Nat) (lead : List Char) (cells : Row) : List Glyph → Row
  | [] => cells
  | g :: rest =>
    if room < cells.length + g.columns then cells
    else if g.columns = 0 then
      match cells.getLast? with
      | none => bareCells room (lead ++ g.symbol) cells rest
      | some last =>
        bareCells room lead (cells.dropLast ++ [⟨last.symbol ++ g.symbol, g.style⟩]) rest
    else
      bareCells room []
        (cells ++ ⟨lead ++ g.symbol, g.style⟩ :: Row.blank (g.columns - 1) .standard) rest

/-- Puts cells into a row from a column on. -/
def place (base : Style) (width column : Nat) (cells : Row) : Row :=
  Row.blank column base ++ cells ++ Row.blank (width - column - cells.length) base

def lineColumns (text : List Char) : Nat := Text.columns .edition18 text

/-- The part of a centered text that is drawn, and the column where it starts. What is too wide
loses the same number of columns at both ends, rounded down at the left one; a cluster cut in half
leaves a gap. -/
def centered (width : Nat) (text : List Char) : Nat × List Char :=
  let total := lineColumns text
  if total ≤ width then ((width - total) / 2, text)
  else
    let available := total - (total - width) / 2
    if available = total then (0, text)
    else
      let kept := Typesetting.lastClusters (.ofRules .edition18) available text
      (available - totalColumns (columns .edition18) kept, kept.flatten)

def footerRow (base : Style) (width : Nat) (text : List Char) : Row :=
  if lineColumns text = 0 then Row.blank width base
  else
    let (column, shown) := centered width text
    let style := base.paint { foreground := some theme.dimmed }
    let column := min column width
    place base width column (bareCells (width - column) [] [] (glyphs style shown))

end PocketCalc.Screen
