import AacConfig.Text.Pieces

/-!
# Lines

A text of ended lines is cut into these lines and the empty piece behind the
last of them, whatever the lines hold besides the character that ends them
(`pieces_ended`).
-/

namespace AacConfig.Text

variable {separator : Char}

theorem pieces_append_separator {piece : List Char} (free : separator ∉ piece) (rest : List Char) :
    pieces separator (piece ++ separator :: rest) = piece :: pieces separator rest := by
  induction piece with
  | nil =>
      show pieces separator (separator :: rest) = _
      rw [pieces, if_pos rfl]
  | cons character piece cut =>
      have other : character ≠ separator := fun same => free (same ▸ List.mem_cons_self)
      rw [List.cons_append, pieces, if_neg other,
        cut fun member => free (List.mem_cons_of_mem character member)]

/-- Ended lines are cut apart again. -/
theorem pieces_ended {lines : List (List Char)} (free : ∀ line ∈ lines, separator ∉ line) :
    pieces separator (lines.flatMap fun line => line ++ [separator]) = lines ++ [[]] := by
  induction lines with
  | nil => rfl
  | cons line lines cut =>
      obtain ⟨first, others⟩ := List.forall_mem_cons.mp free
      rw [List.flatMap_cons, List.append_assoc, List.singleton_append,
        pieces_append_separator first, cut others, List.cons_append]

end AacConfig.Text
