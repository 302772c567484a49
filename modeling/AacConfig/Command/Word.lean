import AacConfig.Log.Line

/-!
# Words of a command line

The arguments of the program form words: an option together with its value, a
switch, or an input. An option and its value are one argument with an equals
sign between them, or two arguments. An argument that starts with a dash is
never the second of these, except a dash alone, and behind an argument of two
dashes everything is an input.
-/

namespace AacConfig.Command

/-- What the program is asked to do with a configuration. -/
inductive Action
  /-- To report what it says. -/
  | info
  /-- To wrap it in a descriptor. -/
  | esds
deriving Repr, DecidableEq

/-- The action of a given name. -/
def Action.ofName? : String → Option Action
  | "info" => some info
  | "esds" => some esds
  | _ => none

/-- How a report is written. -/
inductive ReportFormat
  | plain
  | yaml
deriving Repr, DecidableEq, Inhabited

/-- The name of a report format. -/
def ReportFormat.name : ReportFormat → String
  | plain => "plain"
  | yaml => "yaml"

/-- The report format of a given name. -/
def ReportFormat.ofName? : String → Option ReportFormat
  | "plain" => some plain
  | "yaml" => some yaml
  | _ => none

/-- A word of a command line. -/
inductive Word
  /-- How much is logged. -/
  | verbosity (value : Log.Verbosity)
  /-- How records are written. -/
  | lineFormat (value : Log.LineFormat)
  /-- A refused configuration is fatal. -/
  | strict
  /-- The configuration in hexadecimal. -/
  | hex (text : String)
  /-- How the report is written. -/
  | reportFormat (value : ReportFormat)
  /-- The file that holds the configuration. -/
  | input (path : String)
deriving Repr, DecidableEq

/-- The kinds of words, of which each may stand once. -/
inductive Kind
  | verbosity
  | lineFormat
  | strict
  | hex
  | reportFormat
  | input
deriving Repr, DecidableEq

namespace Word

/-- The kind of a word. -/
def kind : Word → Kind
  | verbosity _ => .verbosity
  | lineFormat _ => .lineFormat
  | strict => .strict
  | hex _ => .hex
  | reportFormat _ => .reportFormat
  | input _ => .input

/-- The verbosity that a word sets. -/
def verbosity? : Word → Option Log.Verbosity
  | verbosity value => some value
  | _ => none

/-- The line format that a word sets. -/
def lineFormat? : Word → Option Log.LineFormat
  | lineFormat value => some value
  | _ => none

/-- The hexadecimal text that a word gives. -/
def hex? : Word → Option String
  | hex text => some text
  | _ => none

/-- The report format that a word sets. -/
def reportFormat? : Word → Option ReportFormat
  | reportFormat value => some value
  | _ => none

/-- The input that a word names. -/
def input? : Word → Option String
  | input path => some path
  | _ => none

end Word

/-! ## Arguments -/

/-- What a single argument looks like. -/
inductive Shape
  /-- Two dashes alone. -/
  | separator
  /-- Two dashes and a name, with the text behind an equals sign if there is one. -/
  | long (name : String) (value : Option String)
  /-- One dash and further letters. -/
  | short (letters : List Char)
  /-- Anything else, a dash alone included. -/
  | plain (text : String)
deriving Repr, DecidableEq

/-- The look of an argument. -/
def Shape.ofArgument (argument : String) : Shape :=
  match argument.toList with
  | ['-', '-'] => separator
  | '-' :: '-' :: option =>
      let name := String.ofList (option.takeWhile (· != '='))
      match option.dropWhile (· != '=') with
      | [] => long name none
      | _ :: value => long name (some (String.ofList value))
  | '-' :: letter :: letters => short (letter :: letters)
  | _ => plain argument

/-- Where an argument stands: before the action or behind it. -/
inductive Place
  | before
  | behind (action : Action)
deriving Repr, DecidableEq

/-- Whether an option of a given name has a value. -/
def hasValue (name : String) : Bool :=
  name == "loglevel" || name == "log-format" || name == "hex" || name == "format"

/-- The word of an option at a place, if the place allows it and the value is one of its values. -/
def Word.ofOption? (place : Place) (name : String) (value : Option String) : Option Word :=
  match name, value with
  | "loglevel", some text => (Log.Verbosity.ofName? text).map verbosity
  | "log-format", some text => (Log.LineFormat.ofName? text).map lineFormat
  | "strict", none => some strict
  | "hex", some text =>
      match place with
      | .before => none
      | .behind _ => some (hex text)
  | "format", some text =>
      match place with
      | .behind .info => (ReportFormat.ofName? text).map reportFormat
      | _ => none
  | _, _ => none

/-- The input that an argument names, which is never empty. -/
def Word.ofInput? (path : String) : Option Word :=
  if path = "" then none else some (input path)

/-- An option at the front of a list of arguments, with the arguments behind it. -/
def Word.ofLong? (place : Place) (name : String) (value : Option String)
    (rest : List String) : Option (Word × List String) :=
  match value, hasValue name, rest with
  | none, true, argument :: others =>
      match Shape.ofArgument argument with
      | .plain text => (ofOption? place name (some text)).map fun word => (word, others)
      | _ => none
  | _, _, _ => (ofOption? place name value).map fun word => (word, rest)

/-- An option uses up no argument that comes before it. -/
theorem Word.length_of_ofLong? {place : Place} {name : String} {value : Option String}
    {rest others : List String} {word : Word}
    (found : Word.ofLong? place name value rest = some (word, others)) :
    others.length ≤ rest.length := by
  unfold Word.ofLong? at found
  repeat' split at found
  all_goals simp at found
  · obtain ⟨_, _, _, rfl⟩ := found
    simp
  · obtain ⟨_, _, _, rfl⟩ := found
    simp

/-- The words of the arguments behind an action, or nothing if they do not form words. -/
def words? (action : Action) (arguments : List String) : Option (List Word) :=
  match arguments with
  | [] => some []
  | argument :: rest =>
      match Shape.ofArgument argument with
      | .separator => rest.mapM Word.ofInput?
      | .short _ => none
      | .plain text => do
          let word ← Word.ofInput? text
          let others ← words? action rest
          return word :: others
      | .long name value =>
          match _found : Word.ofLong? (.behind action) name value rest with
          | none => none
          | some (word, behind) => do
              let others ← words? action behind
              return word :: others
termination_by arguments.length
decreasing_by
  · simp
  · have shorter := Word.length_of_ofLong? _found
    simp only [List.length_cons]
    omega

end AacConfig.Command
