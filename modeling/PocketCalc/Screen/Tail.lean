import PocketCalc.Text.Cluster
import PocketCalc.Text.Columns

/-!
# The visible end of a text

What is typed last stands at the end of a text, so a text that does not fit loses its head and gets
an ellipsis in front. Only whole clusters are kept. How a text is cut into clusters and how many
columns it takes is left open, and fixed for the calculator at the end.
-/
namespace PocketCalc.Screen
open Text

/-- The character in place of what is left out. -/
def ellipsis : Char := '…'

/-- The first of the clusters, as far as they fit into the columns. -/
def takeFitting (columns : List Char → Nat) (room : Nat) : List (List Char) → List (List Char)
  | [] => []
  | cluster :: rest =>
    if columns cluster ≤ room then cluster :: takeFitting columns (room - columns cluster) rest
    else []

def totalColumns (columns : List Char → Nat) : List (List Char) → Nat
  | [] => 0
  | cluster :: rest => columns cluster + totalColumns columns rest

/-- How texts are cut into clusters and how many columns they take. -/
structure Typesetting where
  clusters : List Char → List (List Char)
  columns : List Char → Nat

namespace Typesetting

/-- The clusters at the end of a text that fit into the columns. -/
def lastClusters (T : Typesetting) (room : Nat) (text : List Char) : List (List Char) :=
  (takeFitting T.columns room (T.clusters text).reverse).reverse

/-- The end of a text that fits into `width` columns, behind an ellipsis if
something is left out. -/
def visibleTail (T : Typesetting) (text : List Char) (width : Nat) : List Char :=
  if T.columns text ≤ width then text
  else if width = 0 then []
  else ellipsis :: (T.lastClusters (width - T.columns [ellipsis]) text).flatten

def ofRules (rules : WidthRules) : Typesetting := ⟨Text.clusters, Text.columns rules⟩

end Typesetting

def tailSetting : Typesetting := .ofRules .edition15

def tailColumns (text : List Char) : Nat := tailSetting.columns text

def visibleTail (text : List Char) (width : Nat) : List Char := tailSetting.visibleTail text width

end PocketCalc.Screen
