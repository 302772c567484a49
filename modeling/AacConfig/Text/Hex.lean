import AacConfig.Text.Blank
import AacConfig.Text.Quoted

/-!
# Byte strings in hexadecimal

A byte string is written as two capital digits a byte, separated by spaces. A
reader is more generous: letters may be small, white space and colons may
stand anywhere, and a mark `0x` may come first. Characters are paired as they
stand after that; the first of the two may be a plus sign, which counts as a
leading zero.
-/

namespace AacConfig.Hex

open Text

/-- Why a text is no byte string. -/
inductive Error
  /-- The characters left do not pair up. -/
  | oddCount (count : Nat)
  /-- A pair that is no byte. -/
  | invalidPair (first second : Char)
deriving Repr, DecidableEq

/-- The wording of a refusal. -/
def Error.message : Error → String
  | oddCount count => s!"Hex string has an odd number of digits ({count})"
  | invalidPair first second =>
      s!"Invalid hex byte {quoted [first, second]}: invalid digit found in string"

/-! ## Writing -/

/-- The two capital digits of a byte. -/
def byteDigits (byte : UInt8) : List Char :=
  [hexDigit .capital (byte.toNat / 16), hexDigit .capital (byte.toNat % 16)]

/-- A byte string in capital digits, with a space between two bytes. -/
def render (data : List UInt8) : String :=
  String.ofList ([' '].intercalate (data.map byteDigits))

/-! ## Reading -/

/-- The value of a pair of characters: two digits, or a plus sign and one digit. -/
def pairValue? (first second : Char) : Option Nat :=
  if first = '+' then hexValue? second
  else do
    let high ← hexValue? first
    let low ← hexValue? second
    return 16 * high + low

/-- Whether a character only separates digits. -/
def isSeparator (character : Char) : Bool :=
  isBlank character || character == ':'

/-- A text without the mark of hexadecimal numbers in front. -/
def withoutMark : List Char → List Char
  | '0' :: 'x' :: rest => rest
  | '0' :: 'X' :: rest => rest
  | text => text

/-- The characters of a text that are to be paired: without blanks in front, then
without one mark, then without any separator. -/
def significant (text : List Char) : List Char :=
  (withoutMark (text.dropWhile isBlank)).filter fun character => !isSeparator character

/-- The bytes of the pairs of a list of characters, up to the first bad pair. -/
def bytesOfPairs : List Char → Except Error (List UInt8)
  | first :: second :: rest =>
      match pairValue? first second with
      | none => .error (.invalidPair first second)
      | some value =>
          match bytesOfPairs rest with
          | .error reason => .error reason
          | .ok bytes => .ok (UInt8.ofNat value :: bytes)
  | _ => .ok []

/-- Reads a byte string. -/
def parse (text : String) : Except Error (List UInt8) :=
  let digits := significant text.toList
  if digits.length % 2 = 1 then .error (.oddCount digits.length)
  else bytesOfPairs digits

end AacConfig.Hex
