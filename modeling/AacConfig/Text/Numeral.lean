/-!
# Hexadecimal numerals

Numbers and bytes are shown in base sixteen, in small or capital letters and
with or without a least number of digits.
-/

namespace AacConfig.Text

/-- The letters that stand for the digits above nine. -/
inductive LetterCase
  | small
  | capital
deriving Repr, DecidableEq

/-- The digit for a value below sixteen. -/
def hexDigit (letters : LetterCase) (value : Nat) : Char :=
  if value < 10 then Char.ofNat (48 + value)
  else match letters with
    | .small => Char.ofNat (87 + value)
    | .capital => Char.ofNat (55 + value)

/-- The value of a digit in either case. -/
def hexValue? (character : Char) : Option Nat :=
  let code := character.toNat
  if 48 ≤ code ∧ code ≤ 57 then some (code - 48)
  else if 65 ≤ code ∧ code ≤ 70 then some (code - 55)
  else if 97 ≤ code ∧ code ≤ 102 then some (code - 87)
  else none

/-- The digits of a number, without leading zeros and never empty. -/
def hexDigits (letters : LetterCase) (value : Nat) : List Char :=
  if value < 16 then [hexDigit letters value]
  else hexDigits letters (value / 16) ++ [hexDigit letters (value % 16)]

/-- Digits brought to a least count by zeros in front. -/
def zeroPadded (count : Nat) (digits : List Char) : List Char :=
  List.replicate (count - digits.length) '0' ++ digits

/-- A number in capital digits behind the mark `0x`, of at least `count` digits. -/
def markedHex (count value : Nat) : String :=
  "0x" ++ String.ofList (zeroPadded count (hexDigits .capital value))

end AacConfig.Text
