import AacConfig.Text.Numeral

/-!
# Strings and flat objects in JSON

A JSON string escapes the double quote, the backslash and the control
characters below U+0020, seven of them in a short form, and writes every other
character as it is. An object of strings is written without white space, its
fields in the order given. The reader takes every escape of the format up to
U+FFFF and, between the fields, no white space.
-/

namespace AacConfig.Json

open Text

/-! ## Writing -/

/-- The written form of one character of a string. -/
def escaped (character : Char) : List Char :=
  match character with
  | '"' => ['\\', '"']
  | '\\' => ['\\', '\\']
  | '\x08' => ['\\', 'b']
  | '\x0c' => ['\\', 'f']
  | '\n' => ['\\', 'n']
  | '\r' => ['\\', 'r']
  | '\t' => ['\\', 't']
  | _ =>
      if character.toNat < 0x20 then
        ['\\', 'u'] ++ zeroPadded 4 (hexDigits .small character.toNat)
      else [character]

/-- A string in double quotes. -/
def renderString (text : String) : List Char :=
  '"' :: text.toList.flatMap escaped ++ ['"']

/-- A field of an object. -/
def renderField (field : String × String) : List Char :=
  renderString field.1 ++ ':' :: renderString field.2

/-- An object of strings. -/
def renderObject (fields : List (String × String)) : String :=
  String.ofList ('\x7b' :: [','].intercalate (fields.map renderField) ++ ['\x7d'])

/-! ## Reading -/

/-- The character that a letter behind a backslash stands for. -/
def unescaped? : Char → Option Char
  | '"' => some '"'
  | '\\' => some '\\'
  | '/' => some '/'
  | 'b' => some '\x08'
  | 'f' => some '\x0c'
  | 'n' => some '\n'
  | 'r' => some '\r'
  | 't' => some '\t'
  | _ => none

/-- The character whose number has the given four digits. -/
def numbered? (first second third fourth : Char) : Option Char := do
  let code := 4096 * (← hexValue? first) + 256 * (← hexValue? second) +
    16 * (← hexValue? third) + (← hexValue? fourth)
  if code.isValidChar then some (Char.ofNat code) else none

/-- The characters of a string up to its closing quote, and what stands behind it. -/
def readCharacters? : List Char → Option (List Char × List Char)
  | '"' :: rest => some ([], rest)
  | '\\' :: 'u' :: first :: second :: third :: fourth :: rest => do
      let character ← numbered? first second third fourth
      let (characters, behind) ← readCharacters? rest
      return (character :: characters, behind)
  | '\\' :: letter :: rest => do
      let character ← unescaped? letter
      let (characters, behind) ← readCharacters? rest
      return (character :: characters, behind)
  | character :: rest =>
      if character.toNat < 0x20 || character == '\\' then none
      else do
        let (characters, behind) ← readCharacters? rest
        return (character :: characters, behind)
  | [] => none

/-- The string at the front of a text, and what stands behind it. -/
def readString? : List Char → Option (String × List Char)
  | '"' :: rest => do
      let (characters, behind) ← readCharacters? rest
      return (String.ofList characters, behind)
  | _ => none

/-- The field at the front of a text, and what stands behind it. -/
def readField? (text : List Char) : Option ((String × String) × List Char) := do
  let (key, afterKey) ← readString? text
  match afterKey with
  | ':' :: rest =>
      let (value, behind) ← readString? rest
      return ((key, value), behind)
  | _ => none

/-- At most `count` fields up to the closing brace, and what stands behind it. -/
def readFields? : (count : Nat) → List Char → Option (List (String × String) × List Char)
  | 0, _ => none
  | count + 1, text => do
      let (field, afterField) ← readField? text
      match afterField with
      | ',' :: rest =>
          let (fields, behind) ← readFields? count rest
          return (field :: fields, behind)
      | '\x7d' :: behind => return ([field], behind)
      | _ => none

/-- The fields of an object of strings, of which there is at least one. -/
def readObject? (text : String) : Option (List (String × String)) :=
  match text.toList with
  | '\x7b' :: rest =>
      match readFields? rest.length rest with
      | some (fields, []) => some fields
      | _ => none
  | _ => none

end AacConfig.Json
