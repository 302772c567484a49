import AacConfig.Command.Line

/-!
# What words ask for

Whatever the words of a command line ask for is told by the words of one kind
(`Tells`), so words of other kinds may be left out or exchanged without
changing it (`findSome?_without`, `contains_strict_without`).
-/

namespace AacConfig.Command

/-- Words that say nothing of what is looked for do not count. -/
theorem findSome?_filter {α : Type} {keep : Word → Bool} {find : Word → Option α}
    (silent : ∀ word, keep word = false → find word = none) (words : List Word) :
    (words.filter keep).findSome? find = words.findSome? find := by
  have same : (fun word => if keep word = true then find word else none) = find := by
    funext word
    cases kept : keep word with
    | false => exact (silent word kept).symm
    | true => rfl
  rw [← List.head?_filterMap, List.filterMap_filter, same, List.head?_filterMap]

/-! ## Kinds of words -/

/-- Something that is told by the words of one kind. -/
def Tells {α : Type} (kind : Kind) (find : Word → Option α) : Prop :=
  ∀ word : Word, word.kind ≠ kind → find word = none

theorem tells_verbosity : Tells .verbosity Word.verbosity? := by
  rintro (_ | _ | _ | _ | _ | _) other
  all_goals first | rfl | exact absurd rfl other

theorem tells_lineFormat : Tells .lineFormat Word.lineFormat? := by
  rintro (_ | _ | _ | _ | _ | _) other
  all_goals first | rfl | exact absurd rfl other

theorem tells_hex : Tells .hex Word.hex? := by
  rintro (_ | _ | _ | _ | _ | _) other
  all_goals first | rfl | exact absurd rfl other

theorem tells_reportFormat : Tells .reportFormat Word.reportFormat? := by
  rintro (_ | _ | _ | _ | _ | _) other
  all_goals first | rfl | exact absurd rfl other

theorem tells_input : Tells .input Word.input? := by
  rintro (_ | _ | _ | _ | _ | _) other
  all_goals first | rfl | exact absurd rfl other

/-- Words that say where the configuration comes from are those of two kinds. -/
theorem Word.isSource_eq (word : Word) : word.isSource = sourceKinds.contains word.kind := by
  cases word
  all_goals rfl

/-- What sources tell is told by the sources alone. -/
theorem findSome?_isSource {α : Type} {kind : Kind} {find : Word → Option α}
    (tells : Tells kind find) (source : kind ∈ sourceKinds) (words : List Word) :
    (words.filter Word.isSource).findSome? find = words.findSome? find := by
  refine findSome?_filter ?_ words
  intro word other
  refine tells word ?_
  rintro rfl
  rw [Word.isSource_eq, List.contains_iff_mem.mpr source] at other
  cases other

/-! ## Words left out -/

section Without

variable {kinds : List Kind} {kind : Kind}

theorem mem_without_iff {words : List Word} {word : Word} :
    word ∈ without kinds words ↔ word ∈ words ∧ word.kind ∉ kinds := by
  simp [without]

/-- Words of other kinds do not count. -/
theorem findSome?_without {α : Type} {find : Word → Option α} (tells : Tells kind find)
    (kept : kind ∉ kinds) (words : List Word) :
    (without kinds words).findSome? find = words.findSome? find := by
  refine findSome?_filter ?_ words
  intro word dropped
  refine tells word ?_
  rintro rfl
  rw [Bool.not_eq_false', List.contains_iff_mem] at dropped
  exact kept dropped

theorem contains_strict_without (kept : .strict ∉ kinds) (words : List Word) :
    (without kinds words).contains .strict = words.contains .strict := by
  rw [Bool.eq_iff_iff, List.contains_iff_mem, List.contains_iff_mem, mem_without_iff]
  exact and_iff_left kept

end Without

end AacConfig.Command
