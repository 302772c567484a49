/-!
# Ranges of characters

A property of characters is given by a table of ranges of code points.
-/

namespace AacConfig.Text

/-- Whether a character lies in one of the given ranges, ends included. -/
def inRanges (ranges : List (Nat × Nat)) (character : Char) : Bool :=
  ranges.any fun range => range.1 ≤ character.toNat && character.toNat ≤ range.2

end AacConfig.Text
