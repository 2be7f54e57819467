/-!
# Colours and styles

A cell of the screen has a foreground, a background and a weight. What is drawn over it may leave
any of the three as they were.
-/
namespace PocketCalc.Screen

/-- A colour of the terminal. -/
inductive Color where
  | standard
  | rgb (red green blue : UInt8)
deriving DecidableEq, Repr

def hexByte (b : UInt8) : List Char :=
  [Nat.digitChar (b.toNat / 16), Nat.digitChar (b.toNat % 16)]

/-- The text of a colour: six hexadecimal digits for one that is mixed. -/
def Color.text : Color → List Char
  | standard => "Reset".toList
  | rgb red green blue => '#' :: hexByte red ++ hexByte green ++ hexByte blue

structure Style where
  foreground : Color
  background : Color
  bold : Bool
deriving DecidableEq, Repr

namespace Style

/-- The style of an untouched terminal. -/
def standard : Style := ⟨.standard, .standard, false⟩

end Style

/-- A change of style. Absent parts stay as they are. -/
structure Paint where
  foreground : Option Color := none
  background : Option Color := none
  bold : Bool := false
deriving DecidableEq, Repr

def Style.paint (s : Style) (p : Paint) : Style where
  foreground := p.foreground.getD s.foreground
  background := p.background.getD s.background
  bold := p.bold || s.bold

@[simp] theorem Style.paint_empty (s : Style) : s.paint {} = s := by simp [Style.paint]

structure Theme where
  background : Color
  text : Color
  operator : Color
  dimmed : Color
deriving DecidableEq, Repr

def midnight : Theme where
  background := .rgb 26 27 38
  text := .rgb 169 177 214
  operator := .rgb 247 118 142
  dimmed := .rgb 100 110 150

def theme : Theme := midnight

end PocketCalc.Screen
