import AacConfig.Text.Numeral
import Mathlib.Data.List.Basic

/-!
# Numerals of base sixteen

The sixteen digits have their values in either case and no other character has
one (`hexValue?_eq_some_iff`). A number is found again from its digits, however
many zeros stand in front of them, so it is written in one way only
(`markedHex_inj`).
-/

namespace AacConfig.Text

/-! ## Digits -/

/-- What is true of the sixteen digits in small letters and in capitals is true of each digit. -/
theorem LetterCase.of_digits (P : LetterCase → Nat → Prop)
    (all : ∀ value < 16, P .small value ∧ P .capital value) (letters : LetterCase) {value : Nat}
    (digit : value < 16) : P letters value := by
  cases letters with
  | small => exact (all value digit).1
  | capital => exact (all value digit).2

theorem hexValue?_hexDigit (letters : LetterCase) {value : Nat} (digit : value < 16) :
    hexValue? (hexDigit letters value) = some value :=
  LetterCase.of_digits (fun letters value => hexValue? (hexDigit letters value) = some value)
    (by decide) letters digit

/-- A character without a value is no digit. -/
theorem hexDigit_ne (letters : LetterCase) {value : Nat} (digit : value < 16) {character : Char}
    (worthless : hexValue? character = none) : hexDigit letters value ≠ character := by
  intro same
  rw [← same, hexValue?_hexDigit letters digit] at worthless
  cases worthless

theorem hexValue?_eq_some_iff {character : Char} {value : Nat} :
    hexValue? character = some value ↔
      value < 16 ∧ ∃ letters, character = hexDigit letters value := by
  constructor
  · intro worth
    unfold hexValue? at worth
    simp only at worth
    -- one case for each range of digits; the character is found again from its place in it
    split at worth
    · cases worth
      refine ⟨by omega, .small, ?_⟩
      rw [hexDigit, if_pos (by omega), Nat.add_sub_cancel' (by omega), Char.ofNat_toNat]
    · split at worth
      · cases worth
        refine ⟨by omega, .capital, ?_⟩
        rw [hexDigit, if_neg (by omega)]
        show character = Char.ofNat (55 + (character.toNat - 55))
        rw [Nat.add_sub_cancel' (by omega), Char.ofNat_toNat]
      · split at worth
        · cases worth
          refine ⟨by omega, .small, ?_⟩
          rw [hexDigit, if_neg (by omega)]
          show character = Char.ofNat (87 + (character.toNat - 87))
          rw [Nat.add_sub_cancel' (by omega), Char.ofNat_toNat]
        · cases worth
  · intro given
    obtain ⟨digit, letters, rfl⟩ := given
    exact hexValue?_hexDigit letters digit

theorem hexDigit_inj {letters : LetterCase} {value other : Nat} (first : value < 16)
    (second : other < 16) (same : hexDigit letters value = hexDigit letters other) :
    value = other := by
  have worth := hexValue?_hexDigit letters first
  rw [same, hexValue?_hexDigit letters second] at worth
  exact (Option.some.inj worth).symm

/-- The digits of a number are digits. -/
theorem exists_of_mem_hexDigits {letters : LetterCase} {value : Nat} {character : Char}
    (member : character ∈ hexDigits letters value) :
    ∃ digit < 16, character = hexDigit letters digit := by
  fun_induction hexDigits letters value with
  | case1 value small => exact ⟨value, small, List.mem_singleton.mp member⟩
  | case2 value large found =>
      rcases List.mem_append.mp member with front | last
      · exact found front
      · exact ⟨value % 16, Nat.mod_lt value (by decide), List.mem_singleton.mp last⟩

/-! ## Numbers -/

/-- The number of a list of digits. Other characters count as zero. -/
def hexNumber (digits : List Char) : Nat :=
  digits.foldl (fun number digit => 16 * number + (hexValue? digit).getD 0) 0

theorem hexNumber_hexDigits (letters : LetterCase) (value : Nat) :
    hexNumber (hexDigits letters value) = value := by
  fun_induction hexDigits letters value with
  | case1 value small =>
      show 16 * 0 + (hexValue? (hexDigit letters value)).getD 0 = value
      rw [hexValue?_hexDigit letters small, Nat.mul_zero, Nat.zero_add, Option.getD_some]
  | case2 value large found =>
      have digit : value % 16 < 16 := Nat.mod_lt value (by decide)
      rw [hexNumber, List.foldl_append]
      show 16 * hexNumber (hexDigits letters (value / 16)) +
        (hexValue? (hexDigit letters (value % 16))).getD 0 = value
      rw [found, hexValue?_hexDigit letters digit, Option.getD_some, Nat.div_add_mod]

theorem hexNumber_zeroPadded (count : Nat) (digits : List Char) :
    hexNumber (zeroPadded count digits) = hexNumber digits := by
  rw [zeroPadded]
  induction count - digits.length with
  | zero => rfl
  | succ zeros same =>
      rw [List.replicate_succ, List.cons_append, ← same]
      rfl

/-- A number is written in one way only. -/
theorem markedHex_inj {count value other : Nat}
    (same : markedHex count value = markedHex count other) :
    value = other := by
  have texts := congrArg String.toList same
  simp only [markedHex, String.toList_append, String.toList_ofList] at texts
  have digits := congrArg hexNumber (List.append_cancel_left texts)
  rwa [hexNumber_zeroPadded, hexNumber_zeroPadded, hexNumber_hexDigits, hexNumber_hexDigits]
    at digits

end AacConfig.Text
