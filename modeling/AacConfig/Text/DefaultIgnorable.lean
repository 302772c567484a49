import AacConfig.Text.Ranges

/-!
# Characters that are left out of a display

The characters that Unicode gives the property `Default_Ignorable_Code_Point`:
format characters, variation selectors, fillers of Hangul syllables, and code
points that are kept for such uses. A display without support for them shows
nothing in their place.
-/

namespace AacConfig.Text

/-- The ranges of ignorable characters, ends included, in ascending order. -/
def defaultIgnorableRanges : List (Nat × Nat) :=
  [(0xAD, 0xAD), (0x34F, 0x34F), (0x61C, 0x61C), (0x115F, 0x1160), (0x17B4, 0x17B5),
    (0x180B, 0x180F), (0x200B, 0x200F), (0x202A, 0x202E), (0x2060, 0x206F), (0x3164, 0x3164),
    (0xFE00, 0xFE0F), (0xFEFF, 0xFEFF), (0xFFA0, 0xFFA0), (0xFFF0, 0xFFF8), (0x1BCA0, 0x1BCA3),
    (0x1D173, 0x1D17A), (0xE0000, 0xE0FFF)]

/-- Whether a character is left out of a display without support for it. -/
def isDefaultIgnorable (character : Char) : Bool :=
  inRanges defaultIgnorableRanges character

end AacConfig.Text
