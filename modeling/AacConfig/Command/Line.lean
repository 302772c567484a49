import AacConfig.Command.Invocation
import AacConfig.Command.Spelling

/-!
# Command lines

What a command line looks like that carries out an action: words that are not
of one action only, the name of the action, the words behind it, and perhaps
two dashes and inputs behind them (`Line`). Which words go together does not
depend on how they are spelled (`GoTogether`), and neither does what they ask
for (`Settings.ofWords`).
-/

namespace AacConfig.Command

/-- The name of an action. -/
def Action.name : Action → String
  | info => "info"
  | esds => "esds"

/-- Whether a word may stand behind an action. -/
def Word.fits (action : Action) : Word → Bool
  | reportFormat _ => action == .info
  | _ => true

/-- Whether a word says where the configuration comes from. -/
def Word.isSource : Word → Bool
  | hex _ | input _ => true
  | _ => false

/-- The kinds of words that say where the configuration comes from. -/
def sourceKinds : List Kind := [.hex, .input]

/-- The words of a list that are of none of some kinds. -/
def without (kinds : List Kind) (words : List Word) : List Word :=
  words.filter fun word => !kinds.contains word.kind

/-- The arguments that spell the words behind an action. The inputs at their end may stand behind
an argument of two dashes, whatever they look like. -/
inductive SpelledBehind : List Word → List String → Prop
  | unmarked {words : List Word} {arguments : List String} (spelled : SpelledAll words arguments) :
      SpelledBehind words arguments
  | marked {words : List Word} {arguments paths : List String}
      (spelled : SpelledAll words arguments) (filled : ∀ path ∈ paths, path ≠ "") :
      SpelledBehind (words ++ paths.map .input) (arguments ++ "--" :: paths)

/-- A command line of an action, with words before and behind it. -/
structure Line (action : Action) (before behind : List Word) (arguments : List String) : Prop where
  /-- Words before the action are those that may stand on either side. -/
  globals : ∀ word ∈ before, word.isGlobal
  /-- Words behind the action are some of its own. -/
  fitting : ∀ word ∈ behind, word.fits action
  /-- The arguments spell the words and the action. -/
  spelled : ∃ front back, arguments = front ++ action.name :: back ∧ SpelledAll before front ∧
    SpelledBehind behind back

/-- Words before and behind an action that go together. -/
structure GoTogether (before behind : List Word) : Prop where
  /-- A kind of word stands once before the action. -/
  onceBefore : (before.map Word.kind).Nodup
  /-- A kind of word stands once behind the action. -/
  onceBehind : (behind.map Word.kind).Nodup
  /-- Exactly one word says where the configuration comes from. -/
  source : ∃ word, behind.filter Word.isSource = [word]

/-- What the words before and behind an action ask for. The words behind the action come first. -/
def Settings.ofWords (action : Action) (before behind : List Word) : Settings where
  action
  source := { hex := behind.findSome? Word.hex?, input := behind.findSome? Word.input? }
  reportFormat := (behind.findSome? Word.reportFormat?).getD .plain
  strict := (behind ++ before).contains .strict
  verbosity := ((behind ++ before).findSome? Word.verbosity?).getD .info
  lineFormat := ((behind ++ before).findSome? Word.lineFormat?).getD .plain

end AacConfig.Command
