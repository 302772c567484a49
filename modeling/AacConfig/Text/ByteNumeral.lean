import AacConfig.Text.Numeral

/-!
# Numerals of bytes

The usual reading of a text as a byte in base sixteen: a plus sign may stand in
front, and digits are taken one after the other. The reading ends at the first
character that is no digit, or at the first digit with which the number is too
large for a byte.
-/

namespace AacConfig.Text

/-- Why a text is no numeral of a byte. -/
inductive NumeralError
  /-- There is no character. -/
  | empty
  /-- A character is no digit, or a sign stands alone. -/
  | invalidDigit
  /-- The number is above 255. -/
  | tooLarge
deriving Repr, DecidableEq

/-- The wording of a refusal. -/
def NumeralError.message : NumeralError → String
  | empty => "cannot parse integer from empty string"
  | invalidDigit => "invalid digit found in string"
  | tooLarge => "number too large to fit in target type"

/-- The number of a list of digits that follow the digits of a given number. -/
def digitsBehind (number : Nat) : List Char → Except NumeralError Nat
  | [] => .ok number
  | character :: rest =>
      match hexValue? character with
      | none => .error .invalidDigit
      | some digit =>
          if 16 * number + digit < UInt8.size then digitsBehind (16 * number + digit) rest
          else .error .tooLarge

/-- The byte of a numeral in base sixteen. -/
def byteOfNumeral (text : List Char) : Except NumeralError UInt8 :=
  match text with
  | [] => .error .empty
  | ['+'] => .error .invalidDigit
  | '+' :: digits => (digitsBehind 0 digits).map UInt8.ofNat
  | digits => (digitsBehind 0 digits).map UInt8.ofNat

end AacConfig.Text
