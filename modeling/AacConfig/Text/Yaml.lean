import AacConfig.Text.Pieces

/-!
# Two-level documents in YAML

A document is a list of entries, each a key with a scalar or a key with a group
of scalars, which is indented by two spaces. Scalars stand plain; a text that a
reader would take for something else, or that holds a colon and a space,
stands in single quotes.
-/

namespace AacConfig.Yaml

open Text

/-- A value without parts. -/
inductive Scalar
  | number (value : Nat)
  | flag (value : Bool)
  | text (value : String)
deriving Repr, DecidableEq

/-- A key and its value. -/
abbrev Field := String × Scalar

/-- A part of a document. -/
inductive Entry
  | scalar (field : Field)
  | group (key : String) (fields : List Field)
deriving Repr, DecidableEq

/-! ## Writing -/

/-- Whether a text is a number, whole or with a fraction. -/
def isNumeral (text : List Char) : Bool :=
  match text.dropWhile Char.isDigit with
  | [] => !text.isEmpty
  | mark :: fraction => mark == '.' && text.head? != some '.' && fraction.all Char.isDigit

/-- Whether a colon and a space follow each other in a text. -/
def hasColonSpace : List Char → Bool
  | ':' :: ' ' :: _ => true
  | _ :: rest => hasColonSpace rest
  | [] => false

/-- Whether a text cannot stand plain. -/
def needsQuotes (text : List Char) : Bool :=
  text.isEmpty || isNumeral text || text == "true".toList || text == "false".toList ||
    text.head? == some '\x27' || hasColonSpace text

/-- A text in single quotes, which are doubled inside. -/
def inQuotes (text : List Char) : List Char :=
  '\x27' :: text.flatMap (fun character =>
    if character = '\x27' then ['\x27', '\x27'] else [character]) ++ ['\x27']

/-- The written form of a scalar. -/
def Scalar.render : Scalar → List Char
  | number value => (toString value).toList
  | flag value => (toString value).toList
  | text value => if needsQuotes value.toList then inQuotes value.toList else value.toList

/-- The line of a field, without its end. -/
def renderField (field : Field) : List Char :=
  field.1.toList ++ ':' :: ' ' :: field.2.render

/-- The lines of an entry. -/
def Entry.lines : Entry → List (List Char)
  | scalar field => [renderField field]
  | group key fields =>
      (key.toList ++ [':']) :: fields.map fun field => ' ' :: ' ' :: renderField field

/-- The written form of a document, every line ended. -/
def render (document : List Entry) : String :=
  String.ofList ((document.flatMap Entry.lines).flatMap fun line => line ++ ['\n'])

/-! ## Reading -/

/-- The number that decimal digits spell. -/
def decimalValue (digits : List Char) : Nat :=
  digits.foldl (fun value digit => 10 * value + (digit.toNat - 48)) 0

/-- A text without its quotes: the closing one goes and double ones become one. -/
def unquoted : List Char → List Char
  | '\x27' :: '\x27' :: rest => '\x27' :: unquoted rest
  | ['\x27'] => []
  | character :: rest => character :: unquoted rest
  | [] => []

/-- The scalar that a written form stands for. -/
def Scalar.read (written : List Char) : Scalar :=
  if written = "true".toList then flag true
  else if written = "false".toList then flag false
  else if !written.isEmpty && written.all Char.isDigit then number (decimalValue written)
  else match written with
    | '\x27' :: rest => text (String.ofList (unquoted rest))
    | _ => text (String.ofList written)

/-- The key of a line and the value behind its first colon, if one stands there. -/
def splitLine (line : List Char) : Option (String × Option Scalar) :=
  let key := String.ofList (line.takeWhile (· != ':'))
  match line.dropWhile (· != ':') with
  | [':'] => some (key, none)
  | ':' :: ' ' :: written => some (key, some (Scalar.read written))
  | _ => none

/-- The entries of a list of lines, and the indented fields before the first of them. -/
def readLines : List (List Char) → Option (List Field × List Entry)
  | [] => some ([], [])
  | line :: rest => do
      let (fields, entries) ← readLines rest
      match line with
      | ' ' :: ' ' :: inner =>
          match ← splitLine inner with
          | (key, some value) => some ((key, value) :: fields, entries)
          | (_, none) => none
      | _ =>
          match ← splitLine line with
          | (key, none) => some ([], .group key fields :: entries)
          | (key, some value) =>
              if fields.isEmpty then some ([], .scalar (key, value) :: entries) else none

/-- The document that a text stands for, whose every line is ended. -/
def read (text : String) : Option (List Entry) :=
  match (pieces '\n' text.toList).reverse with
  | [] :: lines => do
      let (fields, entries) ← readLines lines.reverse
      if fields.isEmpty then some entries else none
  | _ => none

end AacConfig.Yaml
