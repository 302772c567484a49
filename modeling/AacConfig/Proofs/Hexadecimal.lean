import AacConfig.Proofs.Numerals
import AacConfig.Text.Hex.Rendering

/-!
# Hexadecimal text

Every rendering of a byte string reads back as that byte string
(`Hex.parse_of_rendering`), and what is written for it is one of them
(`Hex.parse_render`). Separators are dropped wherever they stand
(`Hex.Strewn.withoutSeparators_eq`), and neither put a mark in front of a text
nor hide one (`Hex.marked_of_strewn`); no digit is taken for a mark or a
separator, so what the reader keeps are the digits of the bytes in their order.
-/

namespace AacConfig

namespace Hex

open Text

/-! ## Separators -/

theorem isSeparator_of_isBlank {character : Char} (white : isBlank character = true) :
    isSeparator character = true := by
  rw [isSeparator, white, Bool.true_or]

theorem isSeparator_hexDigit (letters : LetterCase) {value : Nat} (digit : value < 16) :
    isSeparator (hexDigit letters value) = false :=
  LetterCase.of_digits (fun letters value => isSeparator (hexDigit letters value) = false)
    (by decide) letters digit

theorem withoutSeparators_cons_of_separator {character : Char}
    (separates : isSeparator character = true) (text : List Char) :
    withoutSeparators (character :: text) = withoutSeparators text :=
  List.filter_cons_of_neg (by rw [separates]; decide)

theorem withoutSeparators_append (front rest : List Char) :
    withoutSeparators (front ++ rest) = withoutSeparators front ++ withoutSeparators rest :=
  List.filter_append front rest

/-- Separators that are strewn in are dropped with those that were there. -/
theorem Strewn.withoutSeparators_eq {text strewn : List Char} (between : Strewn text strewn) :
    withoutSeparators strewn = withoutSeparators text := by
  induction between with
  | nil => rfl
  | kept character _ same =>
      show List.filter _ _ = List.filter _ _
      rw [List.filter_cons, List.filter_cons]
      simp only [withoutSeparators] at same
      rw [same]
  | separator separates _ same =>
      rw [withoutSeparators_cons_of_separator separates, same]

/-! ## Marks -/

/-- Behind a mark everything but the separators is kept. -/
theorem Mark.significant_append {front : List Char} (mark : Mark front) (rest : List Char) :
    significant (front ++ rest) = withoutSeparators rest := by
  induction mark with
  | alone marks =>
      rcases marks with rfl | rfl
      · rfl
      · rfl
  | blank white _ same =>
      rw [← same]
      show List.filter _ _ = List.filter _ _
      rw [List.cons_append, List.dropWhile_cons_of_pos white]

/-- Without a mark in front everything but the separators is kept. -/
theorem significant_of_not_marked {text : List Char} (plain : ¬ Marked text) :
    significant text = withoutSeparators text := by
  induction text with
  | nil => rfl
  | cons character rest same =>
      by_cases white : isBlank character = true
      · have behind : ¬ Marked rest := by
          intro marked
          obtain ⟨front, mark, starts⟩ := marked
          exact plain ⟨character :: front, .blank white mark, by simpa using starts⟩
        rw [withoutSeparators_cons_of_separator (isSeparator_of_isBlank white), ← same behind]
        show List.filter _ _ = List.filter _ _
        rw [List.dropWhile_cons_of_pos white]
      · have kept : withoutMark (character :: rest) = character :: rest := by
          unfold withoutMark
          split
          · rename_i more split
            exact absurd ⟨_, .alone (.inl rfl), more, split.symm⟩ plain
          · rename_i more split
            exact absurd ⟨_, .alone (.inr rfl), more, split.symm⟩ plain
          · rfl
        show List.filter _ _ = List.filter _ _
        rw [List.dropWhile_cons_of_neg white, kept]

/-- A character that is no separator was there before separators were strewn in. -/
theorem Strewn.of_kept {text strewn : List Char} {character : Char}
    (kept : isSeparator character = false) (between : Strewn text (character :: strewn)) :
    ∃ more, text = character :: more ∧ Strewn more strewn := by
  cases between with
  | kept _ behind => exact ⟨_, rfl, behind⟩
  | separator separates _ =>
      rw [kept] at separates
      cases separates

/-- Separators that are strewn in do not make a mark. -/
theorem marked_of_strewn {text strewn : List Char} (between : Strewn text strewn)
    (marked : Marked strewn) : Marked text := by
  obtain ⟨front, mark, starts⟩ := marked
  induction mark generalizing text strewn with
  | @alone letter marks =>
      obtain ⟨rest, rfl⟩ := starts
      -- neither the zero nor the letter behind it is a separator, so the mark was there before
      have shown : isSeparator letter = false := by
        rcases marks with rfl | rfl
        · decide
        · decide
      obtain ⟨_, rfl, behind⟩ := between.of_kept (by decide)
      obtain ⟨more, rfl, -⟩ := behind.of_kept shown
      exact ⟨_, .alone marks, more, rfl⟩
  | @blank front character white _ found =>
      obtain ⟨rest, rfl⟩ := starts
      cases between with
      | kept _ behind =>
          obtain ⟨before, mark, starts⟩ := found behind (List.prefix_append front rest)
          exact ⟨character :: before, .blank white mark, by simpa using starts⟩
      | separator _ behind => exact found behind (List.prefix_append front rest)

/-! ## Blanks behind a text -/

/-- Blanks behind a text are no part of a mark in front of it. -/
theorem withoutMark_append_of_isBlank {blanks : List Char}
    (white : ∀ character ∈ blanks, isBlank character = true) (text : List Char) :
    withoutMark (text ++ blanks) = withoutMark text ++ blanks := by
  -- a character that is no blank stands in the text itself
  have inside : ∀ {front rest : List Char} {character : Char}, isBlank character = false →
      front ++ blanks = character :: rest → ∃ more, front = character :: more := by
    intro front rest character shown split
    cases front with
    | nil =>
        have blank := white character (by rw [show blanks = character :: rest from split]; simp)
        rw [shown] at blank
        cases blank
    | cons first more => exact ⟨more, by rw [(List.cons.inj split).1]⟩
  have marked : ∀ {letter : Char} {rest : List Char}, isBlank letter = false →
      text ++ blanks = '0' :: letter :: rest → ∃ more, text = '0' :: letter :: more := by
    intro letter rest shown split
    obtain ⟨behind, rfl⟩ := inside (by decide) split
    obtain ⟨more, rfl⟩ := inside shown (List.cons.inj split).2
    exact ⟨more, rfl⟩
  unfold withoutMark
  split
  · rename_i rest split
    obtain ⟨more, rfl⟩ := marked (by decide) split
    cases split
    rfl
  · rename_i rest split
    obtain ⟨more, rfl⟩ := marked (by decide) split
    cases split
    rfl
  · rename_i noSmall noCapital
    split
    · exact absurd rfl (noSmall _)
    · exact absurd rfl (noCapital _)
    · rfl

/-- What a text leaves does not depend on the blanks behind it. -/
theorem leftover_eq_significant (text : List Char) : leftover text = significant text := by
  have white : ∀ character ∈ (text.dropWhile isBlank).rtakeWhile isBlank,
      isBlank character = true := fun _ => List.mem_rtakeWhile_imp
  have dropped : withoutSeparators ((text.dropWhile isBlank).rtakeWhile isBlank) = [] := by
    refine List.filter_eq_nil_iff.mpr fun character member => ?_
    rw [isSeparator_of_isBlank (white character member)]
    decide
  -- blanks at the end are separators, so it does not matter that the trimming takes them off
  calc leftover text
    _ = withoutSeparators (withoutMark (trimmed text)) ++
        withoutSeparators ((text.dropWhile isBlank).rtakeWhile isBlank) := by
      rw [dropped, List.append_nil]
      rfl
    _ = withoutSeparators (withoutMark (trimmed text ++
        (text.dropWhile isBlank).rtakeWhile isBlank)) := by
      rw [withoutMark_append_of_isBlank white, withoutSeparators_append]
    _ = significant text := by
      rw [trimmed, List.rdropWhile_append_rtakeWhile]
      rfl

/-! ## Digits of bytes -/

theorem Spells.exists_hexDigit {data : List UInt8} {digits : List Char}
    (spells : Spells data digits) :
    ∀ character ∈ digits, ∃ letters value, value < 16 ∧ character = hexDigit letters value := by
  induction data generalizing digits with
  | nil =>
      cases spells
      nofun
  | cons byte rest behind =>
      have bound := byte.toNat_lt
      cases spells with
      | cons first spells =>
          cases spells with
          | cons second spells =>
              obtain ⟨letters, rfl⟩ := first
              obtain ⟨others, rfl⟩ := second
              refine List.forall_mem_cons.mpr ⟨⟨letters, _, by omega, rfl⟩, ?_⟩
              exact List.forall_mem_cons.mpr ⟨⟨others, _, by omega, rfl⟩, behind spells⟩

theorem Spells.withoutSeparators_eq {data : List UInt8} {digits : List Char}
    (spells : Spells data digits) : withoutSeparators digits = digits := by
  refine List.filter_eq_self.mpr fun character member => ?_
  obtain ⟨letters, value, small, rfl⟩ := spells.exists_hexDigit character member
  rw [isSeparator_hexDigit letters small]
  rfl

theorem Mark.exists_letter {front : List Char} (mark : Mark front) :
    ∃ letter ∈ front, hexValue? letter = none := by
  induction mark with
  | @alone letter marks =>
      refine ⟨letter, by simp, ?_⟩
      rcases marks with rfl | rfl
      · decide
      · decide
  | blank _ _ found =>
      obtain ⟨letter, member, worthless⟩ := found
      exact ⟨letter, List.mem_cons_of_mem _ member, worthless⟩

/-- The letter of a mark is no digit. -/
theorem Spells.not_marked {data : List UInt8} {digits : List Char} (spells : Spells data digits) :
    ¬ Marked digits := by
  intro marked
  obtain ⟨front, mark, starts⟩ := marked
  obtain ⟨letter, member, worthless⟩ := mark.exists_letter
  obtain ⟨letters, value, small, same⟩ := spells.exists_hexDigit letter (starts.subset member)
  exact hexDigit_ne letters small worthless same.symm

theorem pairValue?_hexDigit (letters others : LetterCase) {high low : Nat} (first : high < 16)
    (second : low < 16) :
    pairValue? (hexDigit letters high) (hexDigit others low) = some (16 * high + low) := by
  rw [pairValue?, if_neg (hexDigit_ne letters first (by decide)),
    hexValue?_hexDigit letters first, hexValue?_hexDigit others second]
  rfl

theorem Spells.bytesOfPairs_eq {data : List UInt8} {digits : List Char}
    (spells : Spells data digits) :
    digits.length % 2 = 0 ∧ bytesOfPairs digits = .ok data := by
  induction data generalizing digits with
  | nil =>
      cases spells
      exact ⟨rfl, rfl⟩
  | cons byte rest behind =>
      have bound := byte.toNat_lt
      cases spells with
      | cons first spells =>
          cases spells with
          | cons second spells =>
              obtain ⟨letters, rfl⟩ := first
              obtain ⟨others, rfl⟩ := second
              obtain ⟨even, read⟩ := behind spells
              refine ⟨by simp only [List.length_cons]; omega, ?_⟩
              rw [bytesOfPairs, pairValue?_hexDigit letters others (by omega) (by omega),
                Nat.div_add_mod]
              simp only [read, UInt8.ofNat_toNat]

/-! ## Renderings -/

theorem parse_of_spells {data : List UInt8} {digits : List Char} {text : String}
    (spells : Spells data digits) (kept : significant text.toList = digits) :
    parse text = .ok data := by
  obtain ⟨even, read⟩ := spells.bytesOfPairs_eq
  simp only [parse, kept]
  rw [if_neg (by omega), read]

theorem parse_of_rendering {data : List UInt8} {text : String}
    (rendering : Rendering data text.toList) : parse text = .ok data := by
  generalize shape : text.toList = characters at rendering
  -- digits make no mark, and separators between them do not either
  cases rendering with
  | bare spells strewn =>
      refine parse_of_spells spells ?_
      rw [shape, significant_of_not_marked (mt (marked_of_strewn strewn) spells.not_marked),
        strewn.withoutSeparators_eq, spells.withoutSeparators_eq]
  | marked mark spells strewn =>
      refine parse_of_spells spells ?_
      rw [shape, mark.significant_append, strewn.withoutSeparators_eq,
        spells.withoutSeparators_eq]

theorem spells_byteDigits (data : List UInt8) : Spells data (data.flatMap byteDigits) := by
  induction data with
  | nil => exact .nil
  | cons byte rest behind => exact .cons ⟨.capital, rfl⟩ (.cons ⟨.capital, rfl⟩ behind)

theorem Strewn.refl (text : List Char) : Strewn text text := by
  induction text with
  | nil => exact .nil
  | cons character rest behind => exact .kept character behind

theorem Strewn.append_left {text strewn : List Char} (front : List Char)
    (between : Strewn text strewn) : Strewn (front ++ text) (front ++ strewn) := by
  induction front with
  | nil => exact between
  | cons character rest behind => exact .kept character behind

theorem strewn_intercalate (pieces : List (List Char)) :
    Strewn pieces.flatten ([' '].intercalate pieces) := by
  induction pieces with
  | nil => exact .nil
  | cons piece others behind =>
      cases others with
      | nil =>
          rw [List.intercalate_singleton, List.flatten_singleton]
          exact .refl piece
      | cons next others =>
          rw [List.intercalate_cons_cons, List.flatten_cons, List.append_assoc]
          exact .append_left piece (.separator (by decide) behind)

theorem toList_render (data : List UInt8) :
    (render data).toList = [' '].intercalate (data.map byteDigits) :=
  String.toList_ofList

theorem rendering_render (data : List UInt8) : Rendering data (render data).toList := by
  rw [toList_render]
  refine .bare (spells_byteDigits data) ?_
  rw [List.flatMap_def]
  exact strewn_intercalate _

/-- What is written for a byte string reads back. -/
theorem parse_render (data : List UInt8) : parse (render data) = .ok data :=
  parse_of_rendering (rendering_render data)

/-- Every rendering of a byte string reads back as that byte string, what is written for it
among them. -/
theorem renderings_read_back :
    (∀ data, Rendering data (render data).toList ∧ parse (render data) = .ok data) ∧
    ∀ (data : List UInt8) (text : String), Rendering data text.toList → parse text = .ok data :=
  ⟨fun data => ⟨rendering_render data, parse_render data⟩, fun _ _ => parse_of_rendering⟩

/-- Two bytes behind a blank and a mark, with separators inside of a pair and at both ends. -/
theorem renderings_read_back_marked :
    Rendering [0x12, 0xAB] "\u00a00X :1\t2aB\n".toList ∧
      parse "\u00a00X :1\t2aB\n" = .ok [0x12, 0xAB] := by
  have spells : Spells [0x12, 0xAB] ['1', '2', 'a', 'B'] :=
    .cons ⟨.small, rfl⟩ (.cons ⟨.small, rfl⟩ (.cons ⟨.small, rfl⟩ (.cons ⟨.capital, rfl⟩ .nil)))
  have strewn : Strewn ['1', '2', 'a', 'B'] [' ', ':', '1', '\t', '2', 'a', 'B', '\n'] :=
    .separator (by decide) (.separator (by decide) (.kept '1' (.separator (by decide)
      (.kept '2' (.kept 'a' (.kept 'B' (.separator (by decide) .nil)))))))
  have mark : Mark ['\u00a0', '0', 'X'] := .blank (by decide) (.alone (.inr rfl))
  have rendering : Rendering [0x12, 0xAB] "\u00a00X :1\t2aB\n".toList :=
    .marked mark spells strewn
  exact ⟨rendering, renderings_read_back.2 _ _ rendering⟩

end Hex

end AacConfig
