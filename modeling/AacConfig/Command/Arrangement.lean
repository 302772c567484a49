import Mathlib.Data.List.Perm.Basic
import AacConfig.Command.Line

/-!
# Arrangements of arguments

A command line without two dashes alone is an arrangement of words in their
spellings before and behind the name of an action (`Arrangement`). Words may
change places on their side, a word that may stand on either side may go over
to the other one, and where both sides have a word of one kind, the one before
the action may be left out (`Rearranged`).
-/

namespace AacConfig.Command

/-- A word in one of its spellings, whose arguments stay together. -/
structure SpelledWord where
  /-- The word. -/
  word : Word
  /-- The arguments that spell it. -/
  arguments : List String
  /-- They do. -/
  spelled : word.Spelled arguments

/-- Words in their spellings before and behind an action, each on a side where it may stand. -/
structure Arrangement (action : Action) where
  /-- The words before the action. -/
  before : List SpelledWord
  /-- The words behind the action. -/
  behind : List SpelledWord
  /-- Words before the action are those that may stand on either side. -/
  globals : ∀ unit ∈ before, unit.word.isGlobal
  /-- Words behind the action are some of its own. -/
  fitting : ∀ unit ∈ behind, unit.word.fits action

/-- The command line of an arrangement. -/
def Arrangement.arguments {action : Action} (arrangement : Arrangement action) : List String :=
  arrangement.before.flatMap SpelledWord.arguments ++
    action.name :: arrangement.behind.flatMap SpelledWord.arguments

/-- The words before the action. -/
def Arrangement.wordsBefore {action : Action} (arrangement : Arrangement action) : List Word :=
  arrangement.before.map SpelledWord.word

/-- The words behind the action. -/
def Arrangement.wordsBehind {action : Action} (arrangement : Arrangement action) : List Word :=
  arrangement.behind.map SpelledWord.word

/-- How one arrangement may be changed into another one, wherever on its side a word is put. -/
inductive Rearranged {action : Action} (first second : Arrangement action) : Prop
  /-- Words change places on their side. -/
  | reordered (before : second.before.Perm first.before)
      (behind : second.behind.Perm first.behind) : Rearranged first second
  /-- A word behind the action goes before it, where there is none of its kind. -/
  | advanced {unit : SpelledWord} (before : second.before.Perm (unit :: first.before))
      (behind : first.behind.Perm (unit :: second.behind))
      (alone : unit.word.kind ∉ first.wordsBefore.map Word.kind) : Rearranged first second
  /-- A word before the action goes behind it, where there is none of its kind. -/
  | postponed {unit : SpelledWord} (before : first.before.Perm (unit :: second.before))
      (behind : second.behind.Perm (unit :: first.behind))
      (alone : unit.word.kind ∉ first.wordsBehind.map Word.kind) : Rearranged first second
  /-- A word before the action is left out, as there is one of its kind behind it. -/
  | dropped {unit : SpelledWord} (before : first.before.Perm (unit :: second.before))
      (behind : second.behind.Perm first.behind)
      (repeated : unit.word.kind ∈ first.wordsBehind.map Word.kind) : Rearranged first second

/-- The words that count: those behind the action, and those of other kinds before it. -/
def inForce (before behind : List Word) : List Word :=
  behind ++ without (behind.map Word.kind) before

end AacConfig.Command
