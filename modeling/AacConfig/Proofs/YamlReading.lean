import AacConfig.Proofs.Lines
import AacConfig.Text.Yaml
import Mathlib.Data.List.TakeWhile

/-!
# Reading YAML back

A document of two levels is read back from its text, if its keys are words and
its texts stay on their lines (`Yaml.read_render`). A scalar is found again with
its kind, because a text that looks like a number or a truth value stands in
quotes (`Yaml.Scalar.read_render`); a line is cut at the colon behind its key;
and the indentation tells the fields of a group from the entries behind it.
-/

namespace AacConfig.Yaml

open Text

/-! ## Documents that are read back -/

/-- A key of letters. -/
def IsKey (key : String) : Prop :=
  ∀ character ∈ key.toList, character.isAlpha = true

/-- A scalar whose written form stays on its line. -/
def Scalar.IsLine : Scalar → Prop
  | number _ | flag _ => True
  | text value => '\n' ∉ value.toList

/-- A field that is read back. -/
structure IsLegible (field : Field) : Prop where
  key : IsKey field.1
  value : field.2.IsLine

/-- An entry that is read back. -/
def Entry.IsLegible : Entry → Prop
  | scalar field => Yaml.IsLegible field
  | group key fields => IsKey key ∧ ∀ field ∈ fields, Yaml.IsLegible field

/-! ## Scalars -/

namespace Scalar

variable {written : List Char}

theorem read_of_digits (filled : written ≠ []) (digits : ∀ character ∈ written, character.isDigit) :
    read written = number (decimalValue written) := by
  have other : ∀ word : String, ¬ word.toList.all Char.isDigit → written ≠ word.toList := by
    rintro word letters rfl
    exact letters (List.all_eq_true.mpr digits)
  have number : (!written.isEmpty && written.all Char.isDigit) = true := by
    simpa [filled] using digits
  unfold read
  rw [if_neg (other "true" (by simp)), if_neg (other "false" (by simp)), if_pos number]

/-- What is neither a truth value nor a number is a text. -/
theorem read_of_apart (notTrue : written ≠ "true".toList) (notFalse : written ≠ "false".toList)
    (notNumber : written = [] ∨ ∃ character ∈ written, ¬ character.isDigit) :
    read written =
      if written.head? = some '\x27' then text (String.ofList (unquoted written.tail))
      else text (String.ofList written) := by
  have apart : ¬ (!written.isEmpty && written.all Char.isDigit) = true := by
    rcases notNumber with rfl | ⟨character, member, letter⟩
    · simp
    · intro both
      rw [Bool.and_eq_true, List.all_eq_true] at both
      exact letter (both.2 character member)
  unfold read
  rw [if_neg notTrue, if_neg notFalse, if_neg apart]
  split
  · rfl
  · rename_i plain
    rw [if_neg]
    intro quote
    obtain ⟨rest, starts⟩ := List.head?_eq_some_iff.mp quote
    exact plain rest starts

/-- Quotes are taken off again. -/
theorem unquoted_doubled (value : List Char) :
    unquoted (value.flatMap (fun character =>
      if character = '\x27' then ['\x27', '\x27'] else [character]) ++ ['\x27']) = value := by
  induction value with
  | nil => rfl
  | cons character value found =>
      rw [List.flatMap_cons, List.append_assoc]
      by_cases quote : character = '\x27'
      · subst quote
        rw [if_pos rfl]
        show '\x27' :: unquoted (List.flatMap _ value ++ ['\x27']) = _
        rw [found]
      -- a character that is no quote is neither one half of a pair nor the end
      · rw [if_neg quote, List.singleton_append, unquoted, found]
        · rintro _ rfl
          exact absurd rfl quote
        · rintro rfl
          exact absurd rfl quote

theorem read_inQuotes (value : List Char) : read (inQuotes value) = text (String.ofList value) := by
  have quote : ∀ word : String, word.toList.head? ≠ some '\x27' → inQuotes value ≠ word.toList := by
    intro word plain same
    rw [← same] at plain
    exact plain rfl
  rw [read_of_apart (quote "true" (by simp)) (quote "false" (by simp))
    (.inr ⟨'\x27', List.mem_cons_self, by decide⟩)]
  show text (String.ofList (unquoted (_ ++ ['\x27']))) = _
  rw [unquoted_doubled]

/-- A text stands plain only if it is read as a text. -/
theorem read_plain {value : List Char} (plain : needsQuotes value = false) :
    read value = text (String.ofList value) := by
  simp only [needsQuotes, Bool.or_eq_false_iff, List.isEmpty_eq_false_iff, beq_eq_false_iff_ne]
    at plain
  obtain ⟨⟨⟨⟨⟨filled, numeral⟩, notTrue⟩, notFalse⟩, unquoted⟩, -⟩ := plain
  have letter : ∃ character ∈ value, ¬ character.isDigit := by
    refine Decidable.byContradiction fun none => ?_
    have digits : ∀ character ∈ value, character.isDigit = true := by
      intro character member
      exact Decidable.byContradiction fun letter => none ⟨character, member, letter⟩
    rw [isNumeral, List.dropWhile_eq_nil_iff.mpr digits] at numeral
    -- digits alone would be a numeral, and numerals are quoted
    simp [filled] at numeral
  rw [read_of_apart notTrue notFalse (.inr letter), if_neg unquoted]

/-- A scalar is read back with its kind. -/
theorem read_render (scalar : Scalar) : read scalar.render = scalar := by
  cases scalar with
  | number value =>
      have digits : (toString value).toList = Nat.toDigits 10 value := Nat.toList_repr
      rw [render, digits, read_of_digits]
      · exact congrArg number Nat.ofDigitChars_ten_toDigits
      · exact Nat.toDigits_ne_nil
      · exact fun character => Nat.isDigit_of_mem_toDigits (by decide) (by decide)
  | flag value =>
      cases value with
      | true =>
          show read "true".toList = flag true
          unfold read
          exact if_pos rfl
      | false =>
          show read "false".toList = flag false
          unfold read
          rw [if_neg (by simp)]
          exact if_pos rfl
  | text value =>
      rw [render]
      split
      · rw [read_inQuotes, String.ofList_toList]
      · rename_i plain
        rw [read_plain (Bool.not_eq_true _ ▸ plain), String.ofList_toList]

/-- The written form of a scalar stays on its line. -/
theorem newline_not_mem_render {scalar : Scalar} (line : scalar.IsLine) :
    '\n' ∉ scalar.render := by
  cases scalar with
  | number value =>
      intro member
      have digits : (toString value).toList = Nat.toDigits 10 value := Nat.toList_repr
      rw [render, digits] at member
      exact absurd (Nat.isDigit_of_mem_toDigits (by decide) (by decide) member) (by decide)
  | flag value =>
      cases value with
      | true =>
          show '\n' ∉ "true".toList
          simp
      | false =>
          show '\n' ∉ "false".toList
          simp
  | text value =>
      have inside : '\n' ∉ value.toList := line
      rw [render]
      split
      · rw [inQuotes]
        intro member
        simp only [List.cons_append, List.mem_cons, List.mem_append, List.mem_flatMap,
          List.not_mem_nil, or_false] at member
        rcases member with same | ⟨character, among, member⟩ | same
        · exact absurd same (by decide)
        · split at member
          · simp at member
          · rw [List.mem_singleton.mp member] at inside
            exact inside among
        · exact absurd same (by decide)
      · exact inside

end Scalar

/-! ## Lines -/

section Lines

variable {key : String} {field : Field} {fields : List Field} {entries : List Entry}
  {line : List Char} {rest : List (List Char)}

theorem IsKey.not_mem (letters : IsKey key) {character : Char} (other : character.isAlpha = false) :
    character ∉ key.toList := by
  intro member
  rw [letters character member] at other
  cases other

/-- A line is cut at the colon behind its key. -/
theorem cut_of_isKey (letters : IsKey key) (behind : List Char) :
    (key.toList ++ ':' :: behind).takeWhile (· != ':') = key.toList ∧
      (key.toList ++ ':' :: behind).dropWhile (· != ':') = ':' :: behind := by
  have before : ∀ character ∈ key.toList, (character != ':') = true := by
    intro character member
    rw [bne_iff_ne]
    rintro rfl
    exact letters.not_mem (by decide) member
  rw [List.takeWhile_append_of_pos before, List.dropWhile_append_of_pos before]
  simp

theorem splitLine_renderField (legible : IsLegible field) :
    splitLine (renderField field) = some (field.1, some field.2) := by
  obtain ⟨front, behind⟩ := cut_of_isKey legible.key (' ' :: field.2.render)
  rw [renderField, splitLine, front, behind]
  simp only [String.ofList_toList, Scalar.read_render]

theorem splitLine_key (letters : IsKey key) :
    splitLine (key.toList ++ [':']) = some (key, none) := by
  obtain ⟨front, behind⟩ := cut_of_isKey letters []
  rw [splitLine, front, behind]
  simp only [String.ofList_toList]

/-- A line that starts with a key is not indented. -/
theorem head?_ne_blank (letters : IsKey key) (behind : List Char) :
    (key.toList ++ ':' :: behind).head? ≠ some ' ' := by
  intro blank
  cases starts : key.toList with
  | nil =>
      rw [starts] at blank
      cases blank
  | cons first others =>
      rw [starts, List.cons_append, List.head?_cons, Option.some_inj] at blank
      have member : ' ' ∈ key.toList := by
        rw [starts, blank]
        exact List.mem_cons_self
      exact letters.not_mem (by decide) member

theorem readLines_cons_indented (read : readLines rest = some (fields, entries))
    (legible : IsLegible field) :
    readLines ((' ' :: ' ' :: renderField field) :: rest) = some (field :: fields, entries) := by
  rw [readLines, read]
  simp only [Option.bind_eq_bind, Option.bind_some, splitLine_renderField legible]

theorem readLines_cons_of_head? (plain : line.head? ≠ some ' ')
    (read : readLines rest = some (fields, entries)) :
    readLines (line :: rest) =
      (splitLine line).bind fun
        | (key, none) => some ([], .group key fields :: entries)
        | (key, some value) =>
            if fields.isEmpty then some ([], .scalar (key, value) :: entries) else none := by
  rw [readLines, read]
  simp only [Option.bind_eq_bind, Option.bind_some]
  split
  · exact absurd rfl plain
  · rfl

theorem readLines_cons_scalar (read : readLines rest = some ([], entries))
    (legible : IsLegible field) :
    readLines (renderField field :: rest) = some ([], .scalar field :: entries) := by
  have plain : (renderField field).head? ≠ some ' ' := head?_ne_blank legible.key _
  rw [readLines_cons_of_head? plain read, splitLine_renderField legible]
  rfl

theorem readLines_cons_key (read : readLines rest = some (fields, entries)) (letters : IsKey key) :
    readLines ((key.toList ++ [':']) :: rest) = some ([], .group key fields :: entries) := by
  rw [readLines_cons_of_head? (head?_ne_blank letters _) read, splitLine_key letters]
  rfl

/-- The indented lines of a group are its fields. -/
theorem readLines_indented (read : readLines rest = some ([], entries))
    (legible : ∀ field ∈ fields, IsLegible field) :
    readLines ((fields.map fun field => ' ' :: ' ' :: renderField field) ++ rest) =
      some (fields, entries) := by
  induction fields with
  | nil => exact read
  | cons field fields found =>
      obtain ⟨first, others⟩ := List.forall_mem_cons.mp legible
      exact readLines_cons_indented (found others) first

theorem readLines_lines {entry : Entry} (read : readLines rest = some ([], entries))
    (legible : entry.IsLegible) :
    readLines (entry.lines ++ rest) = some ([], entry :: entries) := by
  cases entry with
  | scalar field => exact readLines_cons_scalar read legible
  | group key fields =>
      obtain ⟨letters, inside⟩ := legible
      exact readLines_cons_key (readLines_indented read inside) letters

theorem newline_not_mem_renderField (legible : IsLegible field) : '\n' ∉ renderField field := by
  intro member
  simp only [renderField, List.mem_append, List.mem_cons] at member
  rcases member with inKey | colon | blank | inValue
  · exact legible.key.not_mem (by decide) inKey
  · exact absurd colon (by decide)
  · exact absurd blank (by decide)
  · exact Scalar.newline_not_mem_render legible.value inValue

theorem newline_not_mem_line {entry : Entry} (legible : entry.IsLegible)
    (member : line ∈ entry.lines) : '\n' ∉ line := by
  cases entry with
  | scalar field =>
      rw [List.mem_singleton.mp member]
      exact newline_not_mem_renderField legible
  | group key fields =>
      obtain ⟨letters, inside⟩ := legible
      rcases List.mem_cons.mp member with rfl | indented
      · intro newline
        rcases List.mem_append.mp newline with inKey | colon
        · exact letters.not_mem (by decide) inKey
        · exact absurd (List.mem_singleton.mp colon) (by decide)
      · obtain ⟨field, among, rfl⟩ := List.mem_map.mp indented
        have rest := newline_not_mem_renderField (inside field among)
        simpa using rest

end Lines

/-! ## Documents -/

variable {document : List Entry}

theorem readLines_flatMap_lines (legible : ∀ entry ∈ document, entry.IsLegible) :
    readLines (document.flatMap Entry.lines) = some ([], document) := by
  induction document with
  | nil => rfl
  | cons entry document read =>
      obtain ⟨first, others⟩ := List.forall_mem_cons.mp legible
      exact readLines_lines (read others) first

/-- A document is read back from its text. -/
theorem read_render (legible : ∀ entry ∈ document, entry.IsLegible) :
    read (render document) = some document := by
  have free : ∀ line ∈ document.flatMap Entry.lines, '\n' ∉ line := by
    intro line member
    obtain ⟨entry, among, inside⟩ := List.mem_flatMap.mp member
    exact newline_not_mem_line (legible entry among) inside
  -- the text ends with a line break, so the last of its pieces is empty and is dropped
  rw [read, render, String.toList_ofList, pieces_ended free, List.reverse_append]
  show (readLines (document.flatMap Entry.lines).reverse.reverse).bind _ = _
  rw [List.reverse_reverse, readLines_flatMap_lines legible]
  rfl

end AacConfig.Yaml
