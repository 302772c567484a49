import AacConfig.Log.Reading
import AacConfig.Proofs.JsonText
import AacConfig.Proofs.Lines

/-!
# Reading JSON back

What is written as JSON is read back, whatever the strings hold: a character
from its written form (`Json.readCharacters?_escaped_append`), and from it
strings, fields and objects (`Json.readObject?_renderObject`). So a record for
programs is found again from its line, and a log of such records from its text
(`Log.records_read_back`): a message that looks like the end of a string, like
an escape or like another record is still a message.
-/

namespace AacConfig

namespace Text

/-- The digits of a byte, brought to four. -/
theorem zeroPadded_hexDigits_of_lt {code : Nat} (small : code < 256) :
    zeroPadded 4 (hexDigits .small code) =
      ['0', '0', hexDigit .small (code / 16), hexDigit .small (code % 16)] := by
  rw [hexDigits]
  split
  · rename_i digit
    have high : code / 16 = 0 := Nat.div_eq_of_lt digit
    have low : code % 16 = code := Nat.mod_eq_of_lt digit
    rw [high, low]
    rfl
  · have high : code / 16 < 16 := by omega
    rw [hexDigits, if_pos high]
    rfl

end Text

namespace Json

open Text

/-! ## Characters -/

theorem numbered?_byte {code : Nat} (small : code < 256) :
    numbered? '0' '0' (hexDigit .small (code / 16)) (hexDigit .small (code % 16)) =
      some (Char.ofNat code) := by
  have zero : hexValue? '0' = some 0 := by decide
  have high := hexValue?_hexDigit .small (show code / 16 < 16 by omega)
  have low := hexValue?_hexDigit .small (show code % 16 < 16 by omega)
  have valid : code.isValidChar := .inl (by omega)
  simp [numbered?, zero, high, low, Nat.div_add_mod, valid]

theorem readCharacters?_cons_number {first second third fourth character : Char}
    (number : numbered? first second third fourth = some character) (rest : List Char) :
    readCharacters? ('\\' :: 'u' :: first :: second :: third :: fourth :: rest) =
      (readCharacters? rest).map fun found => (character :: found.1, found.2) := by
  rw [readCharacters?, number]
  cases readCharacters? rest
  all_goals rfl

theorem readCharacters?_cons_letter {letter character : Char}
    (letters : unescaped? letter = some character) (rest : List Char) :
    readCharacters? ('\\' :: letter :: rest) =
      (readCharacters? rest).map fun found => (character :: found.1, found.2) := by
  have other : letter ≠ 'u' := by
    rintro rfl
    cases letters
  rw [readCharacters?, letters]
  · cases readCharacters? rest
    all_goals rfl
  · intro _ _ _ _ _ same
    exact absurd same other

theorem readCharacters?_cons_plain {character : Char} (inside : character ≠ '"')
    (plain : character ≠ '\\') (shown : 0x20 ≤ character.toNat) (rest : List Char) :
    readCharacters? (character :: rest) =
      (readCharacters? rest).map fun found => (character :: found.1, found.2) := by
  have legal : (decide (character.toNat < 0x20) || character == '\\') = false := by
    simp [plain, Nat.not_lt.mpr shown]
  rw [readCharacters?, legal]
  · cases readCharacters? rest
    all_goals rfl
  · exact inside
  · intro _ _ _ _ _ same
    exact absurd same plain
  · intro _ _ same
    exact absurd same plain

/-- A character is read from its written form. -/
theorem readCharacters?_escaped_append (character : Char) (rest : List Char) :
    readCharacters? (escaped character ++ rest) =
      (readCharacters? rest).map fun found => (character :: found.1, found.2) := by
  unfold escaped
  split
  -- the short forms
  iterate 7
    · exact readCharacters?_cons_letter rfl rest
  · rename_i quote backslash _ _ _ _ _
    split
    · rename_i control
      have number := numbered?_byte (show character.toNat < 256 by omega)
      rw [Char.ofNat_toNat] at number
      rw [zeroPadded_hexDigits_of_lt (by omega)]
      exact readCharacters?_cons_number number rest
    · rename_i shown
      exact readCharacters?_cons_plain quote backslash (Nat.not_lt.mp shown) rest

/-! ## Strings, fields and objects -/

theorem readCharacters?_flatMap_escaped (characters rest : List Char) :
    readCharacters? (characters.flatMap escaped ++ '"' :: rest) = some (characters, rest) := by
  induction characters with
  | nil =>
      show readCharacters? ('"' :: rest) = _
      rw [readCharacters?]
  | cons character characters read =>
      rw [List.flatMap_cons, List.append_assoc, readCharacters?_escaped_append, read]
      rfl

theorem readString?_renderString_append (text : String) (rest : List Char) :
    readString? (renderString text ++ rest) = some (text, rest) := by
  show readString? ('"' :: (text.toList.flatMap escaped ++ ['"'] ++ rest)) = _
  rw [readString?, List.append_assoc, List.singleton_append, readCharacters?_flatMap_escaped]
  show some (String.ofList text.toList, rest) = some (text, rest)
  rw [String.ofList_toList]

theorem readField?_renderField_append (field : String × String) (rest : List Char) :
    readField? (renderField field ++ rest) = some (field, rest) := by
  rw [renderField, List.append_assoc, List.cons_append, readField?,
    readString?_renderString_append]
  simp only [Option.bind_eq_bind, Option.bind_some, readString?_renderString_append]
  rfl

/-- Fields are read up to the brace behind the last of them. -/
theorem readFields?_intercalate (field : String × String) (fields : List (String × String))
    {count : Nat} (enough : fields.length < count) (behind : List Char) :
    readFields? count
        ([','].intercalate ((field :: fields).map renderField) ++ '\x7d' :: behind) =
      some (field :: fields, behind) := by
  -- on the fields behind the first: a comma stands in front of each, and the brace ends them
  induction fields generalizing field count with
  | nil =>
      obtain ⟨count, rfl⟩ := Nat.exists_eq_add_one_of_ne_zero (Nat.ne_zero_of_lt enough)
      rw [List.map_singleton, List.intercalate_singleton, readFields?,
        readField?_renderField_append]
      rfl
  | cons next fields read =>
      obtain ⟨count, rfl⟩ := Nat.exists_eq_add_one_of_ne_zero (Nat.ne_zero_of_lt enough)
      rw [List.map_cons, List.map_cons, List.intercalate_cons_cons, ← List.map_cons,
        List.append_assoc, List.append_assoc, readFields?, readField?_renderField_append]
      simp only [Option.bind_eq_bind, Option.bind_some, List.singleton_append]
      rw [read next (Nat.lt_of_succ_lt_succ enough)]
      rfl

theorem length_le_length_intercalate (fields : List (String × String)) :
    fields.length ≤ ([','].intercalate (fields.map renderField)).length := by
  induction fields with
  | nil => exact Nat.zero_le _
  | cons field fields shorter =>
      have filled : 1 ≤ (renderField field).length := by
        simp only [renderField, renderString, List.length_append, List.length_cons]
        omega
      cases fields with
      | nil =>
          rw [List.map_singleton, List.intercalate_singleton]
          exact filled
      | cons next fields =>
          rw [List.map_cons, List.map_cons, List.intercalate_cons_cons, ← List.map_cons,
            List.length_append, List.length_append, List.length_cons]
          simp only [List.length_singleton]
          omega

/-- Every object with a field is read back. -/
theorem readObject?_renderObject (field : String × String) (fields : List (String × String)) :
    readObject? (renderObject (field :: fields)) = some (field :: fields) := by
  have enough := length_le_length_intercalate (field :: fields)
  rw [List.length_cons] at enough
  rw [readObject?, renderObject, String.toList_ofList, List.cons_append]
  simp only [List.length_append, List.length_singleton]
  rw [readFields?_intercalate field fields (by omega) []]

end Json

/-! ## Records -/

namespace Log

open Text

theorem readObject?_line (record : Record) :
    Json.readObject? record.line = some record.fields :=
  Json.readObject?_renderObject _ _

theorem le_toNat_of_mem_line {record : Record} {character : Char}
    (member : character ∈ record.line.toList) : 0x20 ≤ character.toNat :=
  Json.le_toNat_of_mem_renderObject member

theorem Severity.name_inj {severity other : Severity} (same : severity.name = other.name) :
    severity = other := by
  revert same
  cases severity
  all_goals cases other
  all_goals decide

theorem Record.fields_inj {record other : Record} (same : record.fields = other.fields) :
    record = other := by
  obtain ⟨time, severity, message⟩ := record
  obtain ⟨otherTime, otherSeverity, otherMessage⟩ := other
  simp only [fields, List.cons.injEq, Prod.mk.injEq, true_and, and_true] at same
  obtain ⟨name, rfl, rfl⟩ := same
  rw [Severity.name_inj name]

theorem line_inj {record other : Record} (same : record.line = other.line) : record = other := by
  have fields := readObject?_line record
  rw [same, readObject?_line other] at fields
  exact Record.fields_inj (Option.some.inj fields).symm

theorem toList_logText (records : List Record) :
    (logText records).toList =
      (records.map fun record => record.line.toList).flatMap fun line => line ++ ['\n'] := by
  rw [logText, String.toList_join, List.flatMap_map, List.flatMap_map]
  simp only [String.toList_append]
  rfl

/-- The lines of a log are cut apart where its records end, as no record holds a line break. -/
theorem pieces_logText (records : List Record) :
    pieces '\n' (logText records).toList =
      records.map (fun record => record.line.toList) ++ [[]] := by
  have free : ∀ line ∈ records.map fun record : Record => record.line.toList, '\n' ∉ line := by
    intro line among member
    obtain ⟨record, -, rfl⟩ := List.mem_map.mp among
    exact absurd (le_toNat_of_mem_line member) (by decide)
  rw [toList_logText, pieces_ended free]

theorem readLog?_logText (records : List Record) :
    readLog? (logText records) = some (records.map Record.fields) := by
  rw [readLog?, pieces_logText, List.reverse_append]
  show (records.map fun record => record.line.toList).reverse.reverse.mapM
    (fun line => Json.readObject? (String.ofList line)) = _
  rw [List.reverse_reverse]
  induction records with
  | nil => rfl
  | cons record records read =>
      rw [List.map_cons, List.mapM_cons, String.ofList_toList, readObject?_line, read]
      rfl

/-- **Records for programs.** The line of a record holds no control character below U+0020, and a
reader takes exactly the three keys with the name of the severity, the message and the time from
it. Different records have different lines, and a log of any records is read as these records,
each from a line of its own. -/
theorem records_read_back :
    (∀ record : Record, (∀ character ∈ record.line.toList, 0x20 ≤ character.toNat) ∧
      Json.readObject? record.line =
        some [("lvl", record.severity.name), ("msg", record.message), ("ts", record.time)]) ∧
    (∀ severity : Severity, ∀ character ∈ severity.name.toList, character.isUpper) ∧
    (∀ record other : Record, record.line = other.line ↔ record = other) ∧
    ∀ records : List Record, readLog? (logText records) = some (records.map Record.fields) := by
  refine ⟨?_, ?_, ?_, readLog?_logText⟩
  · intro record
    exact ⟨fun character => le_toNat_of_mem_line, readObject?_line record⟩
  · intro severity
    cases severity
    all_goals simp [Severity.name]
  · intro record other
    constructor
    · exact line_inj
    · rintro rfl
      rfl

end Log

end AacConfig
