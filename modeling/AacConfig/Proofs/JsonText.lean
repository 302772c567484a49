import AacConfig.Proofs.Numerals
import AacConfig.Text.JsonString

/-!
# Characters of JSON

A JSON text of this kind has no control character below U+0020, whatever its
strings hold (`Json.le_toNat_of_mem_renderObject`): in a string they are
escaped, and what is written around strings has none.
-/

namespace AacConfig

namespace Text

theorem le_toNat_hexDigit (letters : LetterCase) {value : Nat} (digit : value < 16) :
    0x20 ≤ (hexDigit letters value).toNat :=
  LetterCase.of_digits (fun letters value => 0x20 ≤ (hexDigit letters value).toNat) (by decide)
    letters digit

end Text

namespace Json

open Text

variable {character : Char}

theorem le_toNat_of_mem_escaped {original : Char} (member : character ∈ escaped original) :
    0x20 ≤ character.toNat := by
  unfold escaped at member
  split at member
  -- the short forms are written out
  iterate 7
    · simp only [List.mem_cons, List.not_mem_nil, or_false] at member
      rcases member with rfl | rfl
      all_goals decide
  · split at member
    · simp only [zeroPadded, List.cons_append, List.nil_append, List.mem_cons, List.mem_append,
        List.mem_replicate] at member
      rcases member with rfl | rfl | ⟨-, rfl⟩ | digit
      · decide
      · decide
      · decide
      · obtain ⟨value, small, rfl⟩ := exists_of_mem_hexDigits digit
        exact le_toNat_hexDigit .small small
    · rename_i shown
      cases List.mem_singleton.mp member
      exact Nat.le_of_not_lt shown

theorem le_toNat_of_mem_renderString {text : String} (member : character ∈ renderString text) :
    0x20 ≤ character.toNat := by
  simp only [renderString, List.cons_append, List.mem_cons, List.mem_append, List.mem_flatMap,
    List.not_mem_nil, or_false] at member
  rcases member with rfl | ⟨original, -, member⟩ | rfl
  · decide
  · exact le_toNat_of_mem_escaped member
  · decide

theorem le_toNat_of_mem_renderField {field : String × String}
    (member : character ∈ renderField field) : 0x20 ≤ character.toNat := by
  simp only [renderField, List.mem_append, List.mem_cons] at member
  rcases member with key | rfl | value
  · exact le_toNat_of_mem_renderString key
  · decide
  · exact le_toNat_of_mem_renderString value

/-- Between pieces stand separators only. -/
theorem mem_intercalate {separator : List Char} {pieces : List (List Char)}
    (member : character ∈ separator.intercalate pieces) :
    character ∈ separator ∨ ∃ piece ∈ pieces, character ∈ piece := by
  induction pieces with
  | nil => cases member
  | cons piece others found =>
      cases others with
      | nil =>
          rw [List.intercalate_singleton] at member
          exact .inr ⟨piece, List.mem_cons_self, member⟩
      | cons next others =>
          rw [List.intercalate_cons_cons, List.mem_append, List.mem_append] at member
          rcases member with (first | between) | rest
          · exact .inr ⟨piece, List.mem_cons_self, first⟩
          · exact .inl between
          · exact (found rest).imp_right fun ⟨other, among, inside⟩ =>
              ⟨other, List.mem_cons_of_mem _ among, inside⟩

/-- No object holds a control character below U+0020. -/
theorem le_toNat_of_mem_renderObject {fields : List (String × String)}
    (member : character ∈ (renderObject fields).toList) : 0x20 ≤ character.toNat := by
  rw [renderObject, String.toList_ofList, List.cons_append, List.mem_cons, List.mem_append,
    List.mem_singleton] at member
  rcases member with rfl | inside | rfl
  · decide
  · rcases mem_intercalate inside with comma | ⟨piece, among, member⟩
    · cases List.mem_singleton.mp comma
      decide
    · obtain ⟨field, -, rfl⟩ := List.mem_map.mp among
      exact le_toNat_of_mem_renderField member
  · decide

end Json

end AacConfig
