/-!
# Pieces of a text

A text is cut at every occurrence of a separating character; the pieces may be
empty, and there is always at least one.
-/

namespace AacConfig.Text

/-- The pieces of a text between occurrences of a separator. -/
def pieces (separator : Char) : List Char → List (List Char)
  | [] => [[]]
  | character :: rest =>
      if character = separator then [] :: pieces separator rest
      else
        match pieces separator rest with
        | [] => [[character]]
        | piece :: others => (character :: piece) :: others

end AacConfig.Text
