/-!
# Control sequences

Besides the characters that a terminal shows, a text may hold control
characters, and sequences that steer the terminal: an escape character and what
belongs to it. A text that is read elsewhere keeps only what is shown, so
control characters and sequences are left out of it.

A blank control character stands within its sequence and is shown nevertheless.
What follows it is then shown as well, up to the next control character, and
the sequence goes on from there. A character beyond ASCII that is shown ends
the sequence for good.
-/

namespace AacConfig.Text

/-- What a terminal takes the next character for. -/
inductive ControlState
  /-- A character of the text. -/
  | text
  /-- The character behind an escape character. -/
  | escape
  /-- A character behind an intermediate character of an escape sequence. -/
  | escapeIntermediate
  /-- A character of a control sequence, which a letter ends. -/
  | sequence
  /-- The first character of a device control string. -/
  | deviceEntry
  /-- A character behind the first parameter of a device control string. -/
  | deviceParameter
  /-- A character behind an intermediate character of a device control string. -/
  | deviceIntermediate
  /-- A character of a string that a string terminator ends. -/
  | string
  /-- A character of an operating system command, which a bell ends. -/
  | command
deriving Repr, DecidableEq

/-- Whether a character lies between two others, these included. -/
def isBetween (first last character : Char) : Bool :=
  first ≤ character && character ≤ last

/-- Whether a character is a control character that leaves a blank. -/
def isBlankControl (character : Char) : Bool :=
  character == '\t' || character == '\n' || character == '\x0c' || character == '\r'

/-- Whether the string terminator is among the bytes of a character beyond ASCII. -/
def holdsTerminator (character : Char) : Bool :=
  (String.utf8EncodeChar character).contains 0x9C

namespace ControlState

/-- Whether a character is shown. -/
def shows (state : ControlState) (character : Char) : Bool :=
  match state with
  | text => isBlankControl character || isBetween ' ' '~' character || '\x7f' < character
  | escape | escapeIntermediate | sequence => isBlankControl character
  | deviceEntry | deviceParameter | deviceIntermediate | string | command => false

/-- The state behind the character that follows an escape character. -/
def behindEscape (character : Char) : ControlState :=
  match character with
  | '[' => sequence
  | ']' => command
  | 'P' => deviceEntry
  | 'X' | '^' | '_' => string
  | _ =>
      if isBetween ' ' '/' character then escapeIntermediate
      else if isBetween '0' '~' character then text
      else escape

/-- The state behind a character that is not shown. -/
def next (state : ControlState) (character : Char) : ControlState :=
  match character with
  | '\x1b' => escape
  | '\x18' | '\x1a' => text
  | _ =>
      match state with
      | text => text
      | escape => behindEscape character
      | escapeIntermediate => if isBetween '0' '~' character then text else escapeIntermediate
      | sequence => if isBetween '@' '~' character then text else sequence
      | deviceEntry =>
          if isBetween ' ' '/' character then deviceIntermediate
          else if isBetween '0' '?' character then deviceParameter
          else if isBetween '@' '~' character then string
          else deviceEntry
      | deviceParameter =>
          if isBetween ' ' '/' character then deviceIntermediate
          else if isBetween '<' '~' character then string
          else deviceParameter
      | deviceIntermediate => if isBetween '0' '~' character then string else deviceIntermediate
      | string => if holdsTerminator character then text else string
      | command => if character = '\x07' then text else command

end ControlState

/-- A screen that a text is written to. -/
structure Screen where
  /-- The state behind the last character that was not shown. -/
  state : ControlState := .text
  /-- Whether the last character was shown. -/
  showing : Bool := false
  /-- The characters that were shown, the last one first. -/
  shown : List Char := []
deriving Repr, DecidableEq

/-- The screen after one more character. Behind a shown character everything is text. -/
def Screen.write (screen : Screen) (character : Char) : Screen :=
  let state := if screen.showing then .text else screen.state
  if state.shows character then
    { state := if '\x7f' < character then .text else screen.state
      showing := true
      shown := character :: screen.shown }
  else { screen with state := screen.state.next character, showing := false }

/-- What a terminal shows of a text. -/
def shownText (text : String) : String :=
  String.ofList (text.toList.foldl Screen.write {}).shown.reverse

end AacConfig.Text
