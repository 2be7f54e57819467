import PocketCalc.Text.Ranges

/-!
# Width rules

How many columns a character takes is laid down in tables, and the tables grow with every edition of
the character data. What differs between editions is gathered here.
-/
namespace PocketCalc.Text

/-- What an edition says about widths: characters two columns wide and without a column, those of
the latter that part a pair of Arabic letters, emoji drawn as pictures of two columns unless asked
otherwise, emoji that take a skin tone, the columns of a line feed, whether the vowel signs of the
Kirat Rai script fuse, and whether a quotation mark can be asked to take two columns. -/
structure WidthRules where
  wide : Ranges
  noColumn : Ranges
  parting : Ranges
  pictures : Ranges
  modifiable : Ranges
  lineFeed : Nat
  kiratRai : Bool
  wideQuotes : Bool

end PocketCalc.Text
