import PocketCalc.Screen.Style

/-!
# Rows of cells

A row of the screen is a list of cells. It is reported as runs of neighbouring cells of equal style.
-/
namespace PocketCalc.Screen

structure Cell where
  symbol : List Char
  style : Style
deriving DecidableEq, Repr

def Cell.blank (s : Style) : Cell := ⟨[' '], s⟩

/-- A row of the screen from left to right. -/
abbrev Row := List Cell

namespace Row

def blank (width : Nat) (s : Style) : Row := List.replicate width (Cell.blank s)

def text (row : Row) : List Char := row.flatMap Cell.symbol

@[simp] theorem text_append (a b : Row) : text (a ++ b) = text a ++ text b := by simp [text]

end Row

/-- Neighbouring cells of one style, with their text and their number. -/
structure Run where
  text : List Char
  cells : Nat
  style : Style
deriving DecidableEq, Repr

namespace Row

/-- One more cell in front of some runs. -/
def consRun (cell : Cell) : List Run → List Run
  | [] => [⟨cell.symbol, 1, cell.style⟩]
  | run :: rest =>
    if cell.style = run.style then ⟨cell.symbol ++ run.text, run.cells + 1, run.style⟩ :: rest
    else ⟨cell.symbol, 1, cell.style⟩ :: run :: rest

/-- The runs of a row: each is as long as its style lasts. -/
def runs (row : Row) : List Run := row.foldr consRun []

theorem flatMap_text_consRun (cell : Cell) (list : List Run) :
    (consRun cell list).flatMap Run.text = cell.symbol ++ list.flatMap Run.text := by
  cases list with
  | nil => simp [consRun]
  | cons run rest => by_cases h : cell.style = run.style <;> simp [consRun, h]

@[simp] theorem flatMap_text_runs (row : Row) : (runs row).flatMap Run.text = text row := by
  induction row with
  | nil => rfl
  | cons cell rest ih =>
    rw [show runs (cell :: rest) = consRun cell (runs rest) from rfl, flatMap_text_consRun, ih]
    rfl

end Row
end PocketCalc.Screen
