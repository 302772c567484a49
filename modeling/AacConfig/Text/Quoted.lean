import AacConfig.Text.DefaultIgnorable
import AacConfig.Text.GraphemeExtend
import AacConfig.Text.Numeral
import AacConfig.Text.Unprintable

/-!
# Quoted text

Foreign text that is shown inside a message stands in double quotes, and what
would not be seen or would end the quotes is escaped: quotes and backslashes
by a backslash, and characters that are drawn onto another one or not at all by
their number.
-/

namespace AacConfig.Text

/-- Whether a character would not be seen as one between quotes. -/
def isHidden (character : Char) : Bool :=
  isGraphemeExtend character || isDefaultIgnorable character || isUnprintable character

/-- The escaped form of one character. -/
def quotedCharacter (character : Char) : List Char :=
  match character with
  | '"' => ['\\', '"']
  | '\\' => ['\\', '\\']
  | '\x00' => ['\\', '0']
  | '\t' => ['\\', 't']
  | '\n' => ['\\', 'n']
  | '\r' => ['\\', 'r']
  | _ =>
      if isHidden character then
        ['\\', 'u', '\x7b'] ++ hexDigits .small character.toNat ++ ['\x7d']
      else [character]

/-- A text in double quotes. -/
def quoted (text : List Char) : String :=
  String.ofList ('"' :: text.flatMap quotedCharacter ++ ['"'])

end AacConfig.Text
