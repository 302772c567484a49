import AacConfig.Text.Ranges

/-!
# Blank characters

The characters that Unicode gives the property `White_Space`. Zero-width
characters such as U+200B and U+FEFF do not have it.
-/

namespace AacConfig.Text

/-- The ranges of blank characters, ends included, in ascending order. -/
def blankRanges : List (Nat × Nat) :=
  [(0x9, 0xD), (0x20, 0x20), (0x85, 0x85), (0xA0, 0xA0), (0x1680, 0x1680), (0x2000, 0x200A),
    (0x2028, 0x2029), (0x202F, 0x202F), (0x205F, 0x205F), (0x3000, 0x3000)]

/-- Whether a character is white space. -/
def isBlank (character : Char) : Bool :=
  inRanges blankRanges character

end AacConfig.Text
