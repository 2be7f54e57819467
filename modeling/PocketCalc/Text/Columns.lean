import PocketCalc.Text.ClusterClass
import PocketCalc.Text.Emoji
import PocketCalc.Text.Widths.Edition15
import PocketCalc.Text.Widths.Edition18

/-!
# Column widths

How many terminal columns a text takes. Most characters take one, ideographs and pictures two, marks
none. Some texts are drawn narrower than their characters one by one: a family of emoji is one
picture, and some scripts fuse two letters into one sign. So the width is summed from right to left,
with a note of what stands behind each character.
-/
namespace PocketCalc.Text

/-- Letters that fuse with a letter in front of them: the Arabic alef behind a lam, the Hebrew
lamed behind an alef, a Khmer letter below another, the Buginese ya behind a vowel sign and both
behind an a, a Tifinagh consonant with or without a joiner, a Lisu tone that may follow another,
and the Old Turkic i. -/
inductive Fusing where
  | alef
  | lamed
  | subscript
  | ya
  | vowelAndYa
  | tifinagh
  | joinedTifinagh
  | lisuTone
  | orkhonI
deriving DecidableEq

/-- What stands behind a character, as far as its width depends on it. What is joined is a joiner
and a picture, behind a keycap, flag letters (one, pairs, or pairs and one more) or the tags at the
end of a flag with the count of letters and digits. A letter that may fuse may have a joiner in
front of it, but the Kirat Rai vowel signs e and ai fuse only with a sign right in front. -/
inductive Behind where
  | nothing
  | lineFeed
  | skinTone
  | flagLetter
  | flagLetters
  | picture
  | joinedPicture
  | joinedKeycap
  | joinedFlagLetter
  | joinedFlags
  | joinedFlagsAndLetter
  | joinedTags (letters digits : Nat)
  | kiratE
  | kiratAi
  | fusing (letter : Fusing) (joined : Bool)
deriving DecidableEq

/-- How the character in front is asked to be drawn. -/
structure Drawing where
  picture : Bool := false
  text : Bool := false
  wideQuote : Bool := false
deriving DecidableEq

def Drawing.union (a b : Drawing) : Drawing :=
  ⟨a.picture || b.picture, a.text || b.text, a.wideQuote || b.wideQuote⟩

/-- What stands behind a character, with the selectors in between. -/
structure Behind.Selected where
  behind : Behind
  drawing : Drawing
deriving DecidableEq

/-- What a character behind means for the one in front, with no selector between them. -/
def Behind.plain (b : Behind) : Behind.Selected := ⟨b, {}⟩

/-- Whether a letter that may fuse stands behind. Selectors do not part it from the one in front. -/
def Behind.fuses : Behind → Bool
  | .fusing _ _ => true
  | _ => false

/-- Whether a picture behind takes in a picture in front, with the picture selector between them. -/
def Behind.takesIn : Behind → Bool
  | .joinedPicture | .joinedKeycap => true
  | _ => false

/-- Marks inside a fused pair that do not part it. -/
def keepsFusion (code : Nat) : Bool :=
  code == 0x34F || within 0x17B4 0x17B5 code || within 0x180B 0x180D code || code == 0x180F
    || within 0xFE00 0xFE0F code || within 0xE0100 0xE01EF code

/-- Quotation marks of either width. -/
def isQuote (code : Nat) : Bool := within 0x2018 0x2019 code || within 0x201C 0x201D code

/-- Khmer letters that can stand below another. -/
def hasSubscript (code : Nat) : Bool :=
  (within 0x1780 0x1798 code && !([0x1783, 0x1788, 0x178D, 0x1794].contains code))
    || within 0x179B 0x179D code || [0x17A0, 0x17A2, 0x17A7, 0x17AB, 0x17AC, 0x17AF].contains code

/-- Letters that take the shape of an Arabic alef. -/
def isAlef (code : Nat) : Bool :=
  [0x622, 0x623, 0x625, 0x627, 0x671, 0x672, 0x673, 0x675, 0x773, 0x774].contains code
    || within 0x870 0x882 code

/-- Letters that take the shape of an Arabic lam. -/
def isLam (code : Nat) : Bool :=
  [0x644, 0x76A, 0x8A6, 0x8C7].contains code || within 0x6B5 0x6B8 code

def isTifinagh (code : Nat) : Bool := within 0x2D31 0x2D65 code || code == 0x2D6F

/-- The letter's part in a fused pair, when it stands behind another. -/
def fusing? (code : Nat) : Option Fusing :=
  if isAlef code then some .alef
  else if code = 0x5DC then some .lamed
  else if hasSubscript code then some .subscript
  else if code = 0x1A10 then some .ya
  else if isTifinagh code then some .tifinagh
  else if within 0xA4FC 0xA4FD code then some .lisuTone
  else if code = 0x10C03 then some .orkhonI
  else none

/-- The selectors, and how each asks the character in front to be drawn. -/
def selector? (rules : WidthRules) (code : Nat) : Option Drawing :=
  if code = 0xFE0F then some { picture := true }
  else if code = 0xFE0E then some { text := true }
  else if rules.wideQuotes && code = 0xFE01 then some { wideQuote := true }
  else none

/-- The columns of a character on its own, and what it means for the one in front. -/
def alone (rules : WidthRules) (code : Nat) : Int × Behind.Selected :=
  if code = 0x115F || code = 0x17A4 then (2, Behind.nothing.plain)
  else if code = 0x17D8 then (3, Behind.nothing.plain)
  else if code = 0x2D7F then (1, Behind.nothing.plain)
  else if within 0x1F1E6 0x1F1FF code then (1, Behind.flagLetter.plain)
  else if within 0x1F3FB 0x1F3FF code then (2, Behind.skinTone.plain)
  else if rules.kiratRai && code = 0x16D67 then (1, Behind.kiratE.plain)
  else if rules.kiratRai && code = 0x16D68 then (1, Behind.kiratAi.plain)
  else if rules.noColumn.contains code then (0, Behind.nothing.plain)
  else if rules.pictures.contains code then (2, Behind.picture.plain)
  else
    match fusing? code with
    | some letter => (1, (Behind.fusing letter false).plain)
    | none => (if rules.wide.contains code then 2 else 1, Behind.nothing.plain)

/-- The columns a letter adds in front of one it fuses with. -/
def fused? (rules : WidthRules) (letter : Fusing) (joined : Bool) (code : Nat) :
    Option (Int × Behind.Selected) :=
  match letter, joined with
  | .alef, _ =>
    if isLam code then some (0, Behind.nothing.plain)
    else if rules.noColumn.contains code && !rules.parting.contains code then
      some (0, (Behind.fusing .alef joined).plain)
    else none
  | .lamed, true => if code = 0x5D0 then some (0, Behind.nothing.plain) else none
  | .subscript, _ => if code = 0x17D2 then some (-1, Behind.nothing.plain) else none
  | .ya, true =>
    if code = 0x1A17 then some (0, (Behind.fusing .vowelAndYa false).plain) else none
  | .vowelAndYa, _ => if code = 0x1A15 then some (0, Behind.nothing.plain) else none
  | .tifinagh, _ =>
    if code = 0x2D7F then some (1, (Behind.fusing .joinedTifinagh false).plain)
    else if joined && isTifinagh code then some (0, Behind.nothing.plain)
    else none
  | .joinedTifinagh, _ => if isTifinagh code then some (-1, Behind.nothing.plain) else none
  | .lisuTone, _ => if within 0xA4F8 0xA4FB code then some (0, Behind.nothing.plain) else none
  | .orkhonI, true => if code = 0x10C32 then some (0, Behind.nothing.plain) else none
  | _, false => none

/-- The columns a character adds in front of a joiner and a picture, which it may join. -/
def joinedTo? (rules : WidthRules) (code : Nat) : Option (Int × Behind.Selected) :=
  if code = 0x20E3 then some (0, Behind.joinedKeycap.plain)
  else if within 0x1F1E6 0x1F1FF code then some (1, Behind.joinedFlagLetter.plain)
  else if within 0x1F3FB 0x1F3FF code then some (0, Behind.skinTone.plain)
  else if code = 0xE007F then some (0, (Behind.joinedTags 0 0).plain)
  else if rules.pictures.contains code then some (0, Behind.picture.plain)
  else none

/-- The columns a tag, or the flag that leads the tags, adds in front of tags. -/
def tagged? (letters digits code : Nat) : Option (Int × Behind.Selected) :=
  if within 0xE0061 0xE007A code && digits = 0 && letters < 6 then
    some (0, (Behind.joinedTags (letters + 1) 0).plain)
  else if within 0xE0030 0xE0039 code && digits < 3 && letters < 5 then
    some (0, (Behind.joinedTags letters (digits + 1)).plain)
  else if code = 0x1F3F4 && (digits = 3 || digits = 0 && 3 ≤ letters) then
    some (0, Behind.picture.plain)
  else none

/-- The columns a character adds together with what stands behind it, when that
differs from its own. -/
def together? (rules : WidthRules) (code : Nat) : Behind → Option (Int × Behind.Selected)
  | .fusing letter joined =>
    if code = 0x200D && letter ≠ .alef then some (0, (Behind.fusing letter true).plain)
    else if keepsFusion code then some (0, (Behind.fusing letter joined).plain)
    else fused? rules letter joined code
  | .skinTone =>
    if rules.modifiable.contains code then some (0, Behind.picture.plain)
    else if code = 0x200D then some (0, Behind.joinedPicture.plain)
    else none
  | .flagLetter =>
    if within 0x1F1E6 0x1F1FF code then some (1, Behind.flagLetters.plain) else none
  | .flagLetters =>
    if within 0x1F1E6 0x1F1FF code then some (1, Behind.flagLetters.plain)
    else if code = 0x200D then some (0, Behind.joinedPicture.plain)
    else none
  | .picture => if code = 0x200D then some (0, Behind.joinedPicture.plain) else none
  | .joinedPicture => joinedTo? rules code
  | .joinedFlagLetter =>
    if within 0x1F1E6 0x1F1FF code then some (-1, Behind.joinedFlags.plain) else none
  | .joinedFlags =>
    if within 0x1F1E6 0x1F1FF code then some (3, Behind.joinedFlagsAndLetter.plain)
    else if code = 0x200D then some (0, Behind.joinedPicture.plain)
    else none
  | .joinedFlagsAndLetter =>
    if within 0x1F1E6 0x1F1FF code then some (-1, Behind.joinedFlags.plain)
    else if code = 0x200D then some (0, Behind.joinedPicture.plain)
    else none
  | .joinedTags letters digits => tagged? letters digits code
  | .kiratE =>
    if code = 0x16D63 || code = 0x16D69 then some (0, Behind.nothing.plain)
    else if code = 0x16D67 then some (0, Behind.kiratAi.plain)
    else if code = 0x16D68 then some (1, Behind.kiratE.plain)
    else none
  | .kiratAi => if code = 0x16D63 then some (0, Behind.nothing.plain) else none
  | .joinedKeycap | .lineFeed | .nothing => none

/-- The effect of a selector on what stands behind it. The picture selector leaves a joined picture
in force, and every selector a letter that may fuse. -/
def select (b : Behind.Selected) (drawing : Drawing) : Behind.Selected :=
  if b.behind.fuses then ⟨b.behind, b.drawing.union drawing⟩
  else if b.behind.takesIn && drawing.picture then ⟨b.behind, drawing⟩
  else ⟨.nothing, drawing⟩

/-- What stands behind a character that cannot follow the picture selector. -/
def withoutPicture (b : Behind.Selected) : Behind.Selected :=
  if b.drawing.picture then
    if b.behind.fuses then ⟨b.behind, { b.drawing with picture := false }⟩ else Behind.nothing.plain
  else b

/-- The columns an ASCII character adds, and a control character or a space next to that block. -/
def asciiColumns (rules : WidthRules) (c : Char) (b : Behind) : Int × Behind.Selected :=
  if c = '\n' then (rules.lineFeed, Behind.lineFeed.plain)
  else if c = '\r' && b = .lineFeed then (0, Behind.nothing.plain)
  else (1, Behind.nothing.plain)

/-- The columns of any other character in front of what stands behind it, unless it
is made a picture. -/
def signColumns (rules : WidthRules) (c : Char) (b : Behind.Selected) : Int × Behind.Selected :=
  let code := c.toNat
  match selector? rules code with
  | some drawing => (0, select b drawing)
  | none =>
    if b.drawing.text && textOnRequest.has c then (1, Behind.nothing.plain)
    else if b.drawing.wideQuote && isQuote code then (2, Behind.nothing.plain)
    else (together? rules code b.behind).getD (alone rules code)

/-- The columns a character adds in front of what stands behind it. -/
def addedColumns (rules : WidthRules) (c : Char) (b : Behind.Selected) : Int × Behind.Selected :=
  if b.drawing.picture && canBePicture c then
    (if b.behind.takesIn then 0 else 2, Behind.picture.plain)
  else
    let b := withoutPicture b
    if c.toNat ≤ 0xA0 then asciiColumns rules c b.behind else signColumns rules c b

/-- The columns of a text, and what it means for a character put in front. -/
def measure (rules : WidthRules) (text : List Char) : Int × Behind.Selected :=
  text.foldr (fun c (sum, b) => let (added, b) := addedColumns rules c b; (sum + added, b))
    (0, Behind.nothing.plain)

def columns (rules : WidthRules) (text : List Char) : Nat := (measure rules text).1.toNat

@[simp] theorem columns_nil (rules : WidthRules) : columns rules [] = 0 := rfl

end PocketCalc.Text
