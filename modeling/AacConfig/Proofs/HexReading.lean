import AacConfig.Proofs.Hexadecimal
import AacConfig.Text.Hex.Rendering

/-!
# What is read as hexadecimal text

Hexadecimal text is read two characters at a time, each pair as a numeral of a
byte. Two characters are never too few and never too large for one, so the only
fault is a character that is no digit (`byteOfPair_eq_error`). What a text is
refused for is settled by the characters that it leaves: their number, and then
the first pair that is no numeral (`Hex.parse_reports`). Separators have no
part in it.

The pairs that are read are more than those of two digits. A plus sign may be
the first of the two and counts as a zero, and nothing else is accepted
(`Hex.parse_eq_ok_iff`).
-/

namespace AacConfig

namespace Hex

open Text

/-! ## Digits -/

theorem isDigit_hexDigit (letters : LetterCase) {value : Nat} (digit : value < 16) :
    IsDigit (hexDigit letters value) :=
  LetterCase.of_digits (fun letters value => IsDigit (hexDigit letters value)) (by decide)
    letters digit

theorem asDigit_hexDigit (letters : LetterCase) {value : Nat} (digit : value < 16) :
    asDigit (hexDigit letters value) = hexDigit .capital value :=
  LetterCase.of_digits
    (fun letters value => asDigit (hexDigit letters value) = hexDigit .capital value)
    (by decide) letters digit

theorem exists_hexDigit_of_isDigit {character : Char} (digit : IsDigit character) :
    ∃ letters value, value < 16 ∧ character = hexDigit letters value := by
  have worth : ∃ value, hexValue? character = some value := by
    simp only [IsDigit, Char.le_def, UInt32.le_iff_toNat_le] at digit
    change 48 ≤ character.toNat ∧ character.toNat ≤ 57 ∨
      97 ≤ character.toNat ∧ character.toNat ≤ 102 ∨
      65 ≤ character.toNat ∧ character.toNat ≤ 70 at digit
    simp only [hexValue?]
    rcases digit with decimal | small | capital
    · exact ⟨_, if_pos decimal⟩
    · exact ⟨_, by rw [if_neg (by omega), if_neg (by omega), if_pos small]⟩
    · exact ⟨_, by rw [if_neg (by omega), if_pos capital]⟩
  obtain ⟨value, worth⟩ := worth
  obtain ⟨small, letters, same⟩ := hexValue?_eq_some_iff.mp worth
  exact ⟨letters, value, small, same⟩

/-- A character has a value where it is the digit of that value in capital letters. -/
theorem hexValue?_eq_some_iff_asDigit {character : Char} {value : Nat} (small : value < 16) :
    hexValue? character = some value ↔
      IsDigit character ∧ asDigit character = hexDigit .capital value := by
  constructor
  · intro worth
    obtain ⟨-, letters, rfl⟩ := hexValue?_eq_some_iff.mp worth
    exact ⟨isDigit_hexDigit letters small, asDigit_hexDigit letters small⟩
  · intro given
    obtain ⟨digit, capital⟩ := given
    obtain ⟨letters, other, otherSmall, rfl⟩ := exists_hexDigit_of_isDigit digit
    rw [asDigit_hexDigit letters otherSmall] at capital
    rw [hexValue?_hexDigit letters otherSmall, hexDigit_inj otherSmall small capital]

/-! ## One pair -/

theorem byteDigits_of_lt {byte : UInt8} (small : byte.toNat < 16) :
    byteDigits byte = ['0', hexDigit .capital byte.toNat] := by
  rw [byteDigits, Nat.div_eq_of_lt small, Nat.mod_eq_of_lt small]
  rfl

/-- A pair is a byte where it is the byte's two digits, the first of which may be a plus sign
instead of a zero. -/
theorem pairValue?_eq_some_iff {first second : Char} {byte : UInt8} :
    pairValue? first second = some byte.toNat ↔
      (first = '+' ∨ IsDigit first) ∧ IsDigit second ∧
        [asDigit first, asDigit second] = byteDigits byte := by
  have bound := byte.toNat_lt
  have lead : byte.toNat / 16 < 16 := by omega
  have last : byte.toNat % 16 < 16 := by omega
  -- a sign leaves one digit for the number, so it stands where the byte has a zero
  by_cases plus : first = '+'
  · subst plus
    rw [pairValue?, if_pos rfl]
    show _ ↔ _ ∧ _ ∧ ['0', asDigit second] = byteDigits byte
    constructor
    · intro worth
      have small := (hexValue?_eq_some_iff.mp worth).1
      obtain ⟨digit, capital⟩ := (hexValue?_eq_some_iff_asDigit small).mp worth
      exact ⟨.inl rfl, digit, by rw [byteDigits_of_lt small, capital]⟩
    · intro given
      obtain ⟨-, digit, written⟩ := given
      simp only [byteDigits, List.cons.injEq, and_true] at written
      -- the zero in front says that the byte has one digit only
      have zero : 0 = byte.toNat / 16 := hexDigit_inj (by omega) lead written.1
      have worth := (hexValue?_eq_some_iff_asDigit last).mpr ⟨digit, written.2⟩
      rw [worth, Nat.mod_eq_of_lt (by omega)]
  · rw [pairValue?, if_neg plus]
    simp only [or_iff_right plus, byteDigits, List.cons.injEq, and_true]
    constructor
    · intro worth
      obtain ⟨high, front, rest⟩ := Option.bind_eq_some_iff.mp worth
      obtain ⟨low, behind, sum⟩ := Option.bind_eq_some_iff.mp rest
      have high_lt := (hexValue?_eq_some_iff.mp front).1
      have low_lt := (hexValue?_eq_some_iff.mp behind).1
      -- quotient and remainder by sixteen are told by the sum, as both digits are below it
      have whole : 16 * high + low = byte.toNat := Option.some.inj sum
      have quotient : byte.toNat / 16 = high := by omega
      have remainder : byte.toNat % 16 = low := by omega
      obtain ⟨firstDigit, firstCapital⟩ := (hexValue?_eq_some_iff_asDigit high_lt).mp front
      obtain ⟨secondDigit, secondCapital⟩ := (hexValue?_eq_some_iff_asDigit low_lt).mp behind
      rw [quotient, remainder]
      exact ⟨firstDigit, secondDigit, firstCapital, secondCapital⟩
    · intro given
      obtain ⟨firstDigit, secondDigit, firstCapital, secondCapital⟩ := given
      rw [(hexValue?_eq_some_iff_asDigit lead).mpr ⟨firstDigit, firstCapital⟩,
        (hexValue?_eq_some_iff_asDigit last).mpr ⟨secondDigit, secondCapital⟩]
      show some (16 * (byte.toNat / 16) + byte.toNat % 16) = _
      rw [Nat.div_add_mod]

/-- Two characters are a numeral of a byte, or one of them is no digit. -/
theorem byteOfPair_eq (first second : Char) :
    byteOfPair (first, second) =
      match pairValue? first second with
      | some value => .ok (UInt8.ofNat value)
      | none => .error .invalidDigit := by
  show byteOfNumeral [first, second] = _
  by_cases plus : first = '+'
  · subst plus
    show (digitsBehind 0 [second]).map UInt8.ofNat = _
    rw [pairValue?, if_pos rfl, digitsBehind]
    cases worth : hexValue? second with
    | none => rfl
    | some low =>
        have small := (hexValue?_eq_some_iff.mp worth).1
        simp only
        rw [if_pos (by rw [UInt8.size]; omega), Nat.mul_zero, Nat.zero_add]
        rfl
  · -- without a sign in front both characters are taken for digits
    have taken : byteOfNumeral [first, second] =
        (digitsBehind 0 [first, second]).map UInt8.ofNat := by
      unfold byteOfNumeral
      split
      · contradiction
      · rename_i alone
        cases alone
      · rename_i signed
        exact absurd (List.cons.inj signed).1 plus
      · rfl
    rw [taken, pairValue?, if_neg plus, digitsBehind]
    cases lead : hexValue? first with
    | none => rfl
    | some high =>
        have highSmall := (hexValue?_eq_some_iff.mp lead).1
        simp only
        rw [if_pos (by rw [UInt8.size]; omega), digitsBehind]
        cases worth : hexValue? second with
        | none => rfl
        | some low =>
            have lowSmall := (hexValue?_eq_some_iff.mp worth).1
            simp only
            rw [if_pos (by rw [UInt8.size]; omega), Nat.mul_zero, Nat.zero_add]
            rfl

theorem byteOfPair_eq_error {pair : Char × Char} {reason : NumeralError}
    (refused : byteOfPair pair = .error reason) : reason = .invalidDigit := by
  rw [byteOfPair_eq] at refused
  split at refused
  · cases refused
  · cases refused
    rfl

theorem pairValue?_lt {first second : Char} {value : Nat}
    (worth : pairValue? first second = some value) : value < 256 := by
  unfold pairValue? at worth
  split at worth
  · have small := (hexValue?_eq_some_iff.mp worth).1
    omega
  · obtain ⟨high, front, rest⟩ := Option.bind_eq_some_iff.mp worth
    obtain ⟨low, behind, sum⟩ := Option.bind_eq_some_iff.mp rest
    have highSmall := (hexValue?_eq_some_iff.mp front).1
    have lowSmall := (hexValue?_eq_some_iff.mp behind).1
    have whole : 16 * high + low = value := Option.some.inj sum
    omega

theorem byteOfPair_eq_ok_iff {pair : Char × Char} {byte : UInt8} :
    byteOfPair pair = .ok byte ↔
      (pair.1 = '+' ∨ IsDigit pair.1) ∧ IsDigit pair.2 ∧
        [asDigit pair.1, asDigit pair.2] = byteDigits byte := by
  rw [← pairValue?_eq_some_iff, byteOfPair_eq]
  cases worth : pairValue? pair.1 pair.2 with
  | none => simp
  | some value =>
      have small := pairValue?_lt worth
      simp only [Except.ok.injEq, Option.some.injEq]
      constructor
      · rintro rfl
        exact (UInt8.toNat_ofNat_of_lt small).symm
      · rintro rfl
        exact UInt8.ofNat_toNat

/-! ## All pairs of a text -/

theorem length_pairs {text : List Char} (even : text.length % 2 = 0) :
    2 * (pairs text).length = text.length := by
  induction text using pairs.induct with
  | case1 first second rest double =>
      simp only [pairs, List.length_cons] at even ⊢
      rw [Nat.mul_add, double (by omega)]
  | case2 text short =>
      match text with
      | [] => rfl
      | [_] => simp at even
      | first :: second :: rest => exact absurd rfl (short first second rest)

theorem pairs_of_short {text : List Char} (short : ∀ first second rest,
    text = first :: second :: rest → False) : pairs text = [] ∧ bytesOfPairs text = .ok [] := by
  match text with
  | [] => exact ⟨rfl, rfl⟩
  | [_] => exact ⟨rfl, rfl⟩
  | first :: second :: rest => exact absurd rfl (short first second rest)

theorem bytesOfPairs_cons (first second : Char) (rest : List Char) :
    bytesOfPairs (first :: second :: rest) =
      match byteOfPair (first, second) with
      | .ok byte => (bytesOfPairs rest).map (byte :: ·)
      | .error _ => .error (.invalidPair first second) := by
  rw [bytesOfPairs, byteOfPair_eq]
  cases pairValue? first second with
  | none => rfl
  | some value =>
      cases bytesOfPairs rest with
      | error reason => rfl
      | ok bytes => rfl

/-- A text is a byte string where each of its pairs is the byte in its place. -/
theorem bytesOfPairs_eq_ok_iff {text : List Char} {data : List UInt8} :
    bytesOfPairs text = .ok data ↔ (pairs text).map byteOfPair = data.map .ok := by
  induction text using pairs.induct generalizing data with
  | case1 first second rest behind =>
      rw [bytesOfPairs_cons, pairs, List.map_cons]
      cases data with
      | nil =>
          cases byteOfPair (first, second) with
          | error reason => simp
          | ok byte =>
              cases bytesOfPairs rest with
              | error reason => simp [Except.map]
              | ok bytes => simp [Except.map]
      | cons byte bytes =>
          rw [List.map_cons, List.cons.injEq, ← behind]
          cases byteOfPair (first, second) with
          | error reason => simp
          | ok found =>
              cases bytesOfPairs rest with
              | error reason => simp [Except.map]
              | ok others => simp [Except.map]
  | case2 text short =>
      rw [(pairs_of_short short).1, (pairs_of_short short).2]
      cases data with
      | nil => simp
      | cons byte bytes => simp

/-- The first pair that is no numeral is the one that is reported. -/
theorem bytesOfPairs_of_firstRefused {text : List Char} {pair : Char × Char}
    {reason : NumeralError} (first : FirstRefused (pairs text) pair reason) :
    bytesOfPairs text = .error (.invalidPair pair.1 pair.2) := by
  induction text using pairs.induct with
  | case1 lead last rest behind =>
      obtain ⟨⟨earlier, later, split, accepted⟩, refused⟩ := first
      rw [bytesOfPairs_cons]
      -- either the first pair is the one that is refused, or it is read and the rest decides
      cases earlier with
      | nil =>
          cases split
          rw [refused]
      | cons other others =>
          obtain ⟨rfl, below⟩ := List.cons.inj split
          obtain ⟨⟨byte, read⟩, further⟩ := List.forall_mem_cons.mp accepted
          rw [read]
          show (bytesOfPairs rest).map (byte :: ·) = _
          rw [behind ⟨⟨others, later, below, further⟩, refused⟩]
          rfl
  | case2 text short =>
      obtain ⟨⟨earlier, later, split, -⟩, -⟩ := first
      rw [(pairs_of_short short).1] at split
      simp at split

theorem exists_firstRefused {all : List (Char × Char)} {bad : Char × Char} {reason : NumeralError}
    (member : bad ∈ all) (refused : byteOfPair bad = .error reason) :
    ∃ pair, FirstRefused all pair .invalidDigit := by
  induction all with
  | nil => cases member
  | cons pair others found =>
      cases read : byteOfPair pair with
      | error fault =>
          obtain rfl := byteOfPair_eq_error read
          exact ⟨pair, ⟨[], others, rfl, nofun⟩, read⟩
      | ok byte =>
          have later : bad ∈ others := by
            rcases List.mem_cons.mp member with rfl | later
            · rw [read] at refused
              cases refused
            · exact later
          obtain ⟨first, ⟨earlier, behind, split, accepted⟩, fault⟩ := found later
          refine ⟨first, ⟨pair :: earlier, behind, by rw [split]; rfl, ?_⟩, fault⟩
          exact List.forall_mem_cons.mpr ⟨⟨byte, read⟩, accepted⟩

theorem exists_bytes {all : List (Char × Char)}
    (accepted : ∀ pair ∈ all, ∃ byte, byteOfPair pair = .ok byte) :
    ∃ data : List UInt8, all.map byteOfPair = data.map .ok := by
  induction all with
  | nil => exact ⟨[], rfl⟩
  | cons pair others found =>
      obtain ⟨⟨byte, read⟩, rest⟩ := List.forall_mem_cons.mp accepted
      obtain ⟨bytes, behind⟩ := found rest
      exact ⟨byte :: bytes, by rw [List.map_cons, List.map_cons, read, behind]⟩

theorem length_digits (data : List UInt8) :
    (data.flatMap byteDigits).length = 2 * data.length := by
  induction data with
  | nil => rfl
  | cons byte rest double =>
      rw [List.flatMap_cons, List.length_append, double, List.length_cons]
      simp only [byteDigits, List.length_cons, List.length_nil]
      omega

/-- A text of an even number of characters is a byte string where its pairs are digits, the first
of each perhaps a plus sign, and all of them are the digits of the byte string. -/
theorem bytesOfPairs_eq_ok_iff_digits {text : List Char} {data : List UInt8}
    (even : text.length % 2 = 0) :
    bytesOfPairs text = .ok data ↔
      (∀ pair ∈ pairs text, (pair.1 = '+' ∨ IsDigit pair.1) ∧ IsDigit pair.2) ∧
        text.map asDigit = data.flatMap byteDigits := by
  rw [bytesOfPairs_eq_ok_iff]
  induction text using pairs.induct generalizing data with
  | case1 first second rest behind =>
      simp only [List.length_cons] at even
      have fewer : rest.length % 2 = 0 := by omega
      cases data with
      | nil => simp [pairs]
      | cons byte bytes =>
          have split : (asDigit first :: asDigit second :: rest.map asDigit =
              byteDigits byte ++ bytes.flatMap byteDigits) ↔
              [asDigit first, asDigit second] = byteDigits byte ∧
                rest.map asDigit = bytes.flatMap byteDigits := by
            simp [byteDigits, and_assoc]
          rw [pairs, List.map_cons, List.map_cons, List.cons.injEq, behind fewer,
            byteOfPair_eq_ok_iff, List.forall_mem_cons, List.map_cons, List.map_cons,
            List.flatMap_cons, split]
          tauto
  | case2 text short =>
      match text with
      | [] =>
          cases data with
          | nil => simp [pairs]
          | cons byte bytes => simp [pairs, byteDigits]
      | [_] => simp at even
      | first :: second :: rest => exact absurd rfl (short first second rest)

/-! ## Texts -/

/-- A selection that leaves out the blanks between pieces, and nothing else, is the pieces. -/
theorem filter_intercalate_blank {keeps : Char → Bool} (drops : keeps ' ' = false)
    {pieces : List (List Char)}
    (kept : ∀ piece ∈ pieces, ∀ character ∈ piece, keeps character = true) :
    ([' '].intercalate pieces).filter keeps = pieces.flatten := by
  have blank : [' '].filter keeps = [] := List.filter_cons_of_neg (by rw [drops]; decide)
  induction pieces with
  | nil => rfl
  | cons piece others filtered =>
      obtain ⟨first, rest⟩ := List.forall_mem_cons.mp kept
      have whole : piece.filter keeps = piece := List.filter_eq_self.mpr first
      cases others with
      | nil => rw [List.intercalate_singleton, whole, List.flatten_singleton]
      | cons next others =>
          rw [List.intercalate_cons_cons, List.filter_append, List.filter_append, whole, blank,
            filtered rest, List.append_nil]
          rfl

theorem filter_render (data : List UInt8) :
    (render data).toList.filter (· ≠ ' ') = data.flatMap byteDigits := by
  rw [toList_render, filter_intercalate_blank (by decide), List.flatMap_def]
  intro piece member character inside
  obtain ⟨byte, -, rfl⟩ := List.mem_map.mp member
  rw [← List.flatMap_singleton byteDigits byte] at inside
  obtain ⟨letters, value, small, rfl⟩ :=
    (spells_byteDigits [byte]).exists_hexDigit character inside
  exact decide_eq_true (hexDigit_ne letters small (by decide))

/-- The report of a pair ends with the reason for which it is no numeral. -/
theorem message_invalidPair (first second : Char) :
    (Error.invalidPair first second).message =
      s!"Invalid hex byte {quoted [first, second]}: {NumeralError.invalidDigit.message}" := by
  show "Invalid hex byte " ++ quoted [first, second] ++
      (": " ++ NumeralError.invalidDigit.message) =
    "Invalid hex byte " ++ quoted [first, second] ++ ": " ++ NumeralError.invalidDigit.message
  rw [String.append_assoc, String.append_assoc, String.append_assoc]

theorem parse_eq (text : String) :
    parse text =
      if (leftover text.toList).length % 2 = 1 then
        .error (.oddCount (leftover text.toList).length)
      else bytesOfPairs (leftover text.toList) := by
  rw [leftover_eq_significant]
  rfl

/-- A text is read as a byte string exactly where it leaves two characters for each byte, each of
which is a digit or the plus sign of a pair, and they are the digits that are written for the byte
string, in capitals and with zeros for plus signs. -/
theorem parse_eq_ok_iff (text : String) (data : List UInt8) :
    parse text = .ok data ↔
      (leftover text.toList).length = 2 * data.length ∧
      (∀ pair ∈ pairs (leftover text.toList),
        (pair.1 = '+' ∨ IsDigit pair.1) ∧ IsDigit pair.2) ∧
      (leftover text.toList).map asDigit = (render data).toList.filter (· ≠ ' ') := by
  rw [parse_eq, filter_render]
  by_cases odd : (leftover text.toList).length % 2 = 1
  · rw [if_pos odd]
    constructor
    · nofun
    · rintro ⟨double, -⟩
      omega
  · rw [if_neg odd, bytesOfPairs_eq_ok_iff_digits (by omega)]
    constructor
    · rintro ⟨digits, written⟩
      have double := congrArg List.length written
      rw [List.length_map, length_digits] at double
      exact ⟨double, digits, written⟩
    · rintro ⟨-, digits, written⟩
      exact ⟨digits, written⟩

/-- Not every text that is read as a byte string leaves digits only. -/
theorem not_all_isDigit_of_parse :
    ¬ ∀ (text : String) (data : List UInt8), parse text = .ok data →
      (leftover text.toList).length = 2 * data.length ∧
      (∀ character ∈ leftover text.toList, IsDigit character) ∧
      (leftover text.toList).map Char.toUpper = (render data).toList.filter (· ≠ ' ') := by
  intro always
  have digits := (always "+f" [0x0F] (by decide)).2.1
  exact absurd (digits '+' (by decide)) (by decide)

/-- What a text is refused for is settled by the characters that it leaves.

An odd number of them is reported as it is, whatever they are. Of an even number the first pair
that is no numeral of a byte is reported, always for a character that is no digit. Where no pair
is refused there is a byte for each. Separators that are strewn into the text, behind its mark if
it has one, change nothing. -/
theorem parse_reports (text : String) :
    ((leftover text.toList).length % 2 = 1 →
      parse text = .error (.oddCount (leftover text.toList).length)) ∧
    ((leftover text.toList).length % 2 = 0 →
      ∀ bad ∈ pairs (leftover text.toList), ∀ reason, byteOfPair bad = .error reason →
        reason = .invalidDigit ∧
        ∃ pair, FirstRefused (pairs (leftover text.toList)) pair reason ∧
          parse text = .error (.invalidPair pair.1 pair.2) ∧
          (Error.invalidPair pair.1 pair.2).message =
            s!"Invalid hex byte {quoted [pair.1, pair.2]}: {reason.message}") ∧
    ((leftover text.toList).length % 2 = 0 →
      (∀ pair ∈ pairs (leftover text.toList), ∃ byte, byteOfPair pair = .ok byte) →
        ∃ data, parse text = .ok data ∧ 2 * data.length = (leftover text.toList).length) ∧
    (∀ strewn : String, ¬ Marked text.toList → Strewn text.toList strewn.toList →
      parse strewn = parse text) ∧
    ∀ (front rest strewn : List Char), Mark front → text.toList = front ++ rest →
      Strewn rest strewn → parse (String.ofList (front ++ strewn)) = parse text := by
  refine ⟨?_, ?_, ?_, ?_, ?_⟩
  · intro odd
    rw [parse_eq, if_pos odd]
  · intro even bad member reason refused
    obtain rfl := byteOfPair_eq_error refused
    obtain ⟨pair, first⟩ := exists_firstRefused member refused
    refine ⟨rfl, pair, first, ?_, message_invalidPair pair.1 pair.2⟩
    rw [parse_eq, if_neg (by omega), bytesOfPairs_of_firstRefused first]
  · intro even accepted
    obtain ⟨data, read⟩ := exists_bytes accepted
    refine ⟨data, ?_, ?_⟩
    · rw [parse_eq, if_neg (by omega), bytesOfPairs_eq_ok_iff.mpr read]
    · rw [← length_pairs even, ← List.length_map byteOfPair, read, List.length_map]
  · intro strewn plain between
    have stillPlain := mt (marked_of_strewn between) plain
    simp only [parse, significant_of_not_marked plain, significant_of_not_marked stillPlain,
      between.withoutSeparators_eq]
  · intro front rest strewn mark split between
    simp only [parse, String.toList_ofList, split, mark.significant_append,
      between.withoutSeparators_eq]

/-- Two bad pairs behind a good one, a separator between them, three digits behind a mark, and a
plus sign. -/
theorem parse_reports_firstPair :
    (∃ pair, FirstRefused (pairs (leftover "12zz-1".toList)) pair .invalidDigit ∧
      parse "12zz-1" = .error (.invalidPair pair.1 pair.2)) ∧
    parse "12z:z-1" = parse "12zz-1" ∧
    parse "0x123" = .error (.oddCount 3) ∧
    ∃ data, parse "0X12+f" = .ok data ∧ 2 * data.length = 4 := by
  have even : (leftover "12zz-1".toList).length % 2 = 0 := by decide
  obtain ⟨-, refused, -, strewn, -⟩ := parse_reports "12zz-1"
  obtain ⟨-, pair, first, reported, -⟩ := refused even ('z', 'z') (by decide) .invalidDigit rfl
  have between : Strewn "12zz-1".toList "12z:z-1".toList :=
    .kept '1' (.kept '2' (.kept 'z' (.separator (by decide) (.refl ['z', '-', '1']))))
  have plain : ¬ Marked "12zz-1".toList := by
    rw [show "12zz-1".toList = ['1', '2', 'z', 'z', '-', '1'] by decide]
    intro marked
    obtain ⟨_, mark, rest, split⟩ := marked
    cases mark with
    | alone => cases split
    | blank white =>
        obtain ⟨rfl, -⟩ := List.cons.inj split
        exact absurd white (by decide)
  refine ⟨⟨pair, first, reported⟩, strewn _ plain between, ?_, ?_⟩
  · exact (parse_reports "0x123").1 (by decide)
  · refine (parse_reports "0X12+f").2.2.1 (by decide) ?_
    intro pair member
    have all : pairs (leftover "0X12+f".toList) = [('1', '2'), ('+', 'f')] := by decide
    rw [all] at member
    rcases List.mem_cons.mp member with rfl | later
    · exact ⟨0x12, rfl⟩
    · cases List.mem_singleton.mp later
      exact ⟨0x0F, rfl⟩

end Hex

end AacConfig
