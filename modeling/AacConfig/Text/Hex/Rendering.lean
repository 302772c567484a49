import AacConfig.Text.Hex
import AacConfig.Text.ByteNumeral
import Mathlib.Data.List.DropRight

/-!
# Renderings of byte strings

The texts that stand for a byte string, described without a reader: the two
digits of each byte in either case (`Spells`), with separators strewn in
wherever one likes (`Strewn`), and perhaps behind blanks and a mark (`Mark`).
What a text is asked for in turn is what it leaves without blanks around it,
without one mark and without separators (`leftover`), two characters at a time
(`pairs`).
-/

namespace AacConfig.Hex

open Text

/-! ## Renderings -/

/-- A digit of base sixteen, in either case. -/
def IsDigit (character : Char) : Prop :=
  '0' ≤ character ∧ character ≤ '9' ∨ 'a' ≤ character ∧ character ≤ 'f' ∨
    'A' ≤ character ∧ character ≤ 'F'

instance (character : Char) : Decidable (IsDigit character) :=
  inferInstanceAs (Decidable (_ ∨ _))

/-- The two digits of each byte of a byte string in their order, each in either case. -/
def Spells (data : List UInt8) (digits : List Char) : Prop :=
  List.Forall₂ (fun value digit => ∃ letters, digit = hexDigit letters value)
    (data.flatMap fun byte => [byte.toNat / 16, byte.toNat % 16]) digits

/-- The second text is the first one with separators strewn in. -/
inductive Strewn : List Char → List Char → Prop
  /-- Nothing is left of either text. -/
  | nil : Strewn [] []
  /-- A character of the first text. -/
  | kept {text strewn : List Char} (character : Char) (behind : Strewn text strewn) :
      Strewn (character :: text) (character :: strewn)
  /-- A separator that was not in the first text. -/
  | separator {text strewn : List Char} {character : Char} (separates : isSeparator character)
      (behind : Strewn text strewn) : Strewn text (character :: strewn)

/-- Blanks and the mark of hexadecimal numbers. -/
inductive Mark : List Char → Prop
  /-- The mark alone. -/
  | alone {letter : Char} (marks : letter = 'x' ∨ letter = 'X') : Mark ['0', letter]
  /-- One more blank in front. -/
  | blank {front : List Char} {character : Char} (white : isBlank character)
      (mark : Mark front) : Mark (character :: front)

/-- A text that starts with a mark, perhaps behind blanks. -/
def Marked (text : List Char) : Prop :=
  ∃ front, Mark front ∧ front <+: text

/-- The texts that stand for a byte string. -/
inductive Rendering (data : List UInt8) : List Char → Prop
  /-- Its digits and separators. -/
  | bare {digits text : List Char} (spells : Spells data digits) (strewn : Strewn digits text) :
      Rendering data text
  /-- Its digits and separators behind a mark. -/
  | marked {digits text front : List Char} (mark : Mark front) (spells : Spells data digits)
      (strewn : Strewn digits text) : Rendering data (front ++ text)

/-! ## What a text is asked for -/

/-- A text without blanks around it. -/
def trimmed (text : List Char) : List Char :=
  (text.dropWhile isBlank).rdropWhile isBlank

/-- A text without its separators. -/
def withoutSeparators (text : List Char) : List Char :=
  text.filter fun character => !isSeparator character

/-- What a text leaves without blanks around it, then without one mark, then without any
separator. -/
def leftover (text : List Char) : List Char :=
  withoutSeparators (withoutMark (trimmed text))

/-- The characters of a text two at a time. A last character alone is left out. -/
def pairs : List Char → List (Char × Char)
  | first :: second :: rest => (first, second) :: pairs rest
  | _ => []

/-- The byte of a pair, read as a numeral. -/
def byteOfPair (pair : Char × Char) : Except NumeralError UInt8 :=
  byteOfNumeral [pair.1, pair.2]

/-- The first pair that is no numeral of a byte, and why it is none. -/
structure FirstRefused (all : List (Char × Char)) (pair : Char × Char) (reason : NumeralError) :
    Prop where
  place : ∃ earlier later, all = earlier ++ pair :: later ∧
    ∀ other ∈ earlier, ∃ byte, byteOfPair other = .ok byte
  refused : byteOfPair pair = .error reason

/-- The capital digit that a character stands for in a pair, where a plus sign counts as zero. -/
def asDigit (character : Char) : Char :=
  if character = '+' then '0' else character.toUpper

end AacConfig.Hex
