import AacConfig.Command.Word

/-!
# Spellings of words

How the words of a command line may be written: an option and its value joined
by an equals sign or apart, a switch by its name, and an input as it is. A
part of a command line is a list of words, each in one of its spellings.
-/

namespace AacConfig.Command

/-- The name and the value of an option, and nothing for an input. -/
def Word.option? : Word → Option (String × Option String)
  | verbosity value => some ("loglevel", some value.name)
  | lineFormat value => some ("log-format", some value.name)
  | strict => some ("strict", none)
  | hex text => some ("hex", some text)
  | reportFormat value => some ("format", some value.name)
  | input _ => none

/-- Whether a word may stand before the action as well as behind it. -/
def Word.isGlobal : Word → Bool
  | verbosity _ | lineFormat _ | strict => true
  | hex _ | reportFormat _ | input _ => false

/-- The arguments that spell a word. -/
inductive Word.Spelled : Word → List String → Prop
  /-- A switch. -/
  | switch {word : Word} {name : String} (named : word.option? = some (name, none)) :
      Word.Spelled word ["--" ++ name]
  /-- An option and its value in one argument. -/
  | joined {word : Word} {name value : String} (named : word.option? = some (name, some value)) :
      Word.Spelled word ["--" ++ name ++ "=" ++ value]
  /-- An option and its value in two arguments. -/
  | apart {word : Word} {name value : String} (named : word.option? = some (name, some value))
      (plain : Shape.ofArgument value = .plain value) :
      Word.Spelled word ["--" ++ name, value]
  /-- An input. -/
  | input {path : String} (filled : path ≠ "") (plain : Shape.ofArgument path = .plain path) :
      Word.Spelled (.input path) [path]

/-- The arguments that spell a list of words, one after the other. -/
inductive SpelledAll : List Word → List String → Prop
  | nil : SpelledAll [] []
  | cons {word : Word} {arguments : List String} {words : List Word} {rest : List String}
      (first : word.Spelled arguments) (others : SpelledAll words rest) :
      SpelledAll (word :: words) (arguments ++ rest)

end AacConfig.Command
