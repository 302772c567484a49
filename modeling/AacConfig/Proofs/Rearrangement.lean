import Mathlib.Logic.Relation
import AacConfig.Command.Arrangement
import AacConfig.Proofs.CommandLine

/-!
# The order of arguments

What a command line asks for depends on the words that count alone
(`inForce`): those behind the action, and those before it whose kind does not
stand behind it. No two of these are of one kind, so their order says nothing
(`Settings.ofWords_perm`), and one change of an arrangement leaves the same
words counting (`Rearranged.words_perm`). So a command line that is accepted
means the same in every arrangement that it can be brought into
(`ofArguments_rearranged`).
-/

namespace AacConfig.Command

/-! ## The words that count -/

/-- Something that every word of a kind tells. -/
def Answers {α : Type} (kind : Kind) (find : Word → Option α) : Prop :=
  ∀ word : Word, word.kind = kind → (find word).isSome

section InForce

variable {α : Type} {kind : Kind} {find : Word → Option α} {action : Action} {word : Word}
  {before behind words others : List Word}

theorem answers_verbosity : Answers .verbosity Word.verbosity? := by
  rintro (_ | _ | _ | _ | _ | _) same
  all_goals first | rfl | cases same

theorem answers_lineFormat : Answers .lineFormat Word.lineFormat? := by
  rintro (_ | _ | _ | _ | _ | _) same
  all_goals first | rfl | cases same

/-- A word before the action counts where there is none of its kind behind it. -/
theorem findSome?_inForce (tells : Tells kind find) (answers : Answers kind find) :
    (inForce before behind).findSome? find = (behind ++ before).findSome? find := by
  rw [inForce, List.findSome?_append, List.findSome?_append]
  -- either the kind is told behind the action, or nothing of it was left out before
  by_cases said : kind ∈ behind.map Word.kind
  · obtain ⟨word, member, rfl⟩ := List.mem_map.mp said
    have told : (behind.findSome? find).isSome :=
      List.findSome?_isSome_iff.mpr ⟨word, member, answers word rfl⟩
    rw [Option.or_of_isSome told, Option.or_of_isSome told]
  · rw [findSome?_without tells said]

theorem contains_strict_inForce :
    (inForce before behind).contains .strict = (behind ++ before).contains .strict := by
  rw [Bool.eq_iff_iff, List.contains_iff_mem, List.contains_iff_mem, inForce, List.mem_append,
    List.mem_append, mem_without_iff]
  constructor
  · rintro (here | ⟨there, -⟩)
    · exact .inl here
    · exact .inr there
  · rintro (here | there)
    · exact .inl here
    · by_cases said : Kind.strict ∈ behind.map Word.kind
      · obtain ⟨word, member, same⟩ := List.mem_map.mp said
        cases word with
        | strict => exact .inl member
        | verbosity | lineFormat | hex | reportFormat | input => cases same
      · exact .inr ⟨there, said⟩

/-- A word that may stand on either side tells nothing of what is told behind the action only. -/
theorem findSome?_append_globals (globals : ∀ word ∈ before, word.isGlobal)
    (tells : Tells kind find) (own : ∀ word : Word, word.isGlobal → word.kind ≠ kind) :
    (behind ++ before).findSome? find = behind.findSome? find := by
  have silent : before.findSome? find = none := by
    rw [List.findSome?_eq_none_iff]
    intro word member
    exact tells word (own word (globals word member))
  rw [List.findSome?_append, silent, Option.or_none]

theorem Word.kind_ne_of_isGlobal {word : Word} (global : word.isGlobal) :
    word.kind ≠ .hex ∧ word.kind ≠ .input ∧ word.kind ≠ .reportFormat := by
  cases word with
  | verbosity | lineFormat | strict => exact ⟨nofun, nofun, nofun⟩
  | hex | reportFormat | input => cases global

theorem inForce_isGlobal (globals : ∀ word ∈ before, word.isGlobal) :
    ∀ word ∈ without (behind.map Word.kind) before, word.isGlobal := by
  intro word member
  exact globals word (mem_without_iff.mp member).1

/-- What is asked for is asked for by the words that count. -/
theorem Settings.ofWords_inForce (globals : ∀ word ∈ before, word.isGlobal) :
    Settings.ofWords action [] (inForce before behind) = Settings.ofWords action before behind := by
  -- three kinds stand behind the action only, so words left out before it do not touch them
  have own {α : Type} {kind : Kind} {find : Word → Option α} (tells : Tells kind find)
      (own : ∀ word : Word, word.isGlobal → word.kind ≠ kind) :
      (inForce before behind).findSome? find = behind.findSome? find :=
    findSome?_append_globals (inForce_isGlobal globals) tells own
  unfold Settings.ofWords
  rw [List.append_nil, contains_strict_inForce, findSome?_inForce tells_verbosity answers_verbosity,
    findSome?_inForce tells_lineFormat answers_lineFormat,
    own tells_hex fun _ global => (Word.kind_ne_of_isGlobal global).1,
    own tells_input fun _ global => (Word.kind_ne_of_isGlobal global).2.1,
    own tells_reportFormat fun _ global => (Word.kind_ne_of_isGlobal global).2.2]

/-- No two words that count are of one kind. -/
theorem nodup_inForce (once : GoTogether before behind) :
    ((inForce before behind).map Word.kind).Nodup := by
  rw [inForce, List.map_append, List.nodup_append]
  refine ⟨once.onceBehind, once.onceBefore.sublist (List.filter_sublist.map _), ?_⟩
  intro kind here other there same
  obtain ⟨word, member, rfl⟩ := List.mem_map.mp there
  exact (mem_without_iff.mp member).2 (same ▸ here)

/-- A word that stands once is of another kind than the others, and they stand once as well. -/
theorem nodup_of_perm_cons (once : (words.map Word.kind).Nodup)
    (same : words.Perm (word :: others)) :
    word.kind ∉ others.map Word.kind ∧ (others.map Word.kind).Nodup :=
  List.nodup_cons.mp ((same.map Word.kind).nodup_iff.mp once)

/-! ## Their order -/

/-- What one kind of words tells does not depend on the order of words of different kinds. -/
theorem findSome?_perm (tells : Tells kind find) (same : words.Perm others)
    (once : (words.map Word.kind).Nodup) : words.findSome? find = others.findSome? find := by
  induction same with
  | nil => rfl
  | cons word _ rest =>
      rw [List.findSome?_cons, List.findSome?_cons, rest (List.nodup_cons.mp once).2]
  | swap first second words =>
      have apart : second.kind ≠ first.kind := by
        rintro same
        exact (List.nodup_cons.mp once).1 (same ▸ List.mem_cons_self)
      -- of two words of different kinds one at least does not tell
      by_cases told : first.kind = kind
      · have silent : find second = none := tells second (told ▸ apart)
        simp only [List.findSome?_cons, silent]
      · have silent : find first = none := tells first told
        simp only [List.findSome?_cons, silent]
  | trans one _ first second =>
      rw [first once, second ((one.map _).nodup_iff.mp once)]

/-- The order of words of different kinds behind an action says nothing. -/
theorem Settings.ofWords_perm (same : words.Perm others) (once : (words.map Word.kind).Nodup) :
    Settings.ofWords action [] words = Settings.ofWords action [] others := by
  have strict : words.contains .strict = others.contains .strict := by
    rw [Bool.eq_iff_iff, List.contains_iff_mem, List.contains_iff_mem, same.mem_iff]
  unfold Settings.ofWords
  rw [List.append_nil, List.append_nil, strict, findSome?_perm tells_verbosity same once,
    findSome?_perm tells_lineFormat same once, findSome?_perm tells_hex same once,
    findSome?_perm tells_input same once, findSome?_perm tells_reportFormat same once]

theorem inForce_perm {fore hind : List Word} (front : before.Perm fore) (back : behind.Perm hind) :
    (inForce before behind).Perm (inForce fore hind) := by
  have kinds (word : Word) : (behind.map Word.kind).contains word.kind =
      (hind.map Word.kind).contains word.kind := by
    rw [Bool.eq_iff_iff, List.contains_iff_mem, List.contains_iff_mem, (back.map _).mem_iff]
  have same : without (behind.map Word.kind) before = without (hind.map Word.kind) before := by
    unfold without
    simp only [kinds]
  unfold inForce
  rw [same]
  exact back.append (front.filter _)

/-- A word that stands on one side only counts on either side. -/
theorem inForce_cons_perm (front : word.kind ∉ before.map Word.kind)
    (back : word.kind ∉ behind.map Word.kind) :
    (inForce before (word :: behind)).Perm (inForce (word :: before) behind) := by
  have kept : without (behind.map Word.kind) (word :: before) =
      word :: without (behind.map Word.kind) before := by
    unfold without
    rw [List.filter_cons_of_pos]
    simpa using back
  have rest : without ((word :: behind).map Word.kind) before =
      without (behind.map Word.kind) before := by
    unfold without
    refine List.filter_congr ?_
    intro other member
    have apart : other.kind ≠ word.kind := fun same => front (same ▸ List.mem_map_of_mem member)
    simp [apart]
  unfold inForce
  rw [kept, rest]
  exact List.perm_middle.symm

/-- The same words count where a word goes over from one side to the other. -/
theorem inForce_moved {fore hind : List Word} (front : fore.Perm (word :: before))
    (back : behind.Perm (word :: hind)) (absent : word.kind ∉ before.map Word.kind)
    (missing : word.kind ∉ hind.map Word.kind) :
    (inForce fore hind).Perm (inForce before behind) := by
  have here := inForce_perm front (.refl hind)
  have there := inForce_perm (.refl before) back
  exact here.trans ((inForce_cons_perm absent missing).symm.trans there.symm)

/-- A word before the action does not count where there is one of its kind behind it. -/
theorem inForce_cons_of_mem (repeated : word.kind ∈ behind.map Word.kind) :
    inForce (word :: before) behind = inForce before behind := by
  unfold inForce without
  rw [List.filter_cons_of_neg]
  simpa using repeated

/-- Words before the action say nothing of where the configuration comes from. -/
theorem filter_isSource_inForce (globals : ∀ word ∈ before, word.isGlobal) :
    (inForce before behind).filter Word.isSource = behind.filter Word.isSource := by
  have none : (without (behind.map Word.kind) before).filter Word.isSource = [] := by
    rw [List.filter_eq_nil_iff]
    intro word member
    have global := inForce_isGlobal globals word member
    cases word with
    | verbosity | lineFormat | strict => exact nofun
    | hex | reportFormat | input => cases global
  rw [inForce, List.filter_append, none, List.append_nil]

end InForce

/-! ## Rearranging -/

section Rearranging

variable {action : Action} {first second other : Arrangement action} {settings : Settings}

namespace Arrangement

theorem globals_wordsBefore (arrangement : Arrangement action) :
    ∀ word ∈ arrangement.wordsBefore, word.isGlobal :=
  List.forall_mem_map.mpr arrangement.globals

theorem fits_wordsBehind (arrangement : Arrangement action) :
    ∀ word ∈ arrangement.wordsBehind, word.fits action :=
  List.forall_mem_map.mpr arrangement.fitting

/-- The words that count in an arrangement. -/
def words (arrangement : Arrangement action) : List Word :=
  inForce arrangement.wordsBefore arrangement.wordsBehind

/-- The words of an arrangement go together. -/
def Sound (arrangement : Arrangement action) : Prop :=
  GoTogether arrangement.wordsBefore arrangement.wordsBehind

end Arrangement

namespace Rearranged

/-- The same words count after a change. -/
theorem words_perm (sound : first.Sound) (changed : Rearranged first second) :
    second.words.Perm first.words := by
  cases changed with
  | reordered before behind => exact inForce_perm (before.map _) (behind.map _)
  -- a word that goes over to the other side must be the only one of its kind on both
  | @advanced unit before behind alone =>
      obtain ⟨missing, -⟩ := nodup_of_perm_cons sound.onceBehind (behind.map SpelledWord.word)
      exact inForce_moved (before.map _) (behind.map _) alone missing
  | @postponed unit before behind alone =>
      obtain ⟨absent, -⟩ := nodup_of_perm_cons sound.onceBefore (before.map SpelledWord.word)
      exact (inForce_moved (before.map _) (behind.map _) absent alone).symm
  | @dropped unit before behind repeated =>
      have front := inForce_perm (before.map SpelledWord.word) (.refl first.wordsBehind)
      rw [List.map_cons, inForce_cons_of_mem repeated] at front
      have back := inForce_perm (.refl second.wordsBefore) (behind.map SpelledWord.word)
      exact back.trans front.symm

theorem onceBefore (sound : first.Sound) (changed : Rearranged first second) :
    (second.wordsBefore.map Word.kind).Nodup := by
  cases changed with
  | reordered before _ => exact ((before.map _).map _).nodup_iff.mpr sound.onceBefore
  | advanced before _ alone =>
      exact ((before.map _).map _).nodup_iff.mpr (List.nodup_cons.mpr ⟨alone, sound.onceBefore⟩)
  | postponed before _ _ | dropped before _ _ =>
      exact (nodup_of_perm_cons sound.onceBefore (before.map SpelledWord.word)).2

theorem onceBehind (sound : first.Sound) (changed : Rearranged first second) :
    (second.wordsBehind.map Word.kind).Nodup := by
  cases changed with
  | reordered _ behind | dropped _ behind _ =>
      exact ((behind.map _).map _).nodup_iff.mpr sound.onceBehind
  | advanced _ behind _ =>
      exact (nodup_of_perm_cons sound.onceBehind (behind.map SpelledWord.word)).2
  | postponed _ behind alone =>
      exact ((behind.map _).map _).nodup_iff.mpr (List.nodup_cons.mpr ⟨alone, sound.onceBehind⟩)

/-- Words that go together do so after a change. -/
theorem sound (sound : first.Sound) (changed : Rearranged first second) : second.Sound where
  onceBefore := changed.onceBefore sound
  onceBehind := changed.onceBehind sound
  source := by
    obtain ⟨word, alone⟩ := sound.source
    have same := (changed.words_perm sound).filter Word.isSource
    unfold Arrangement.words at same
    rw [filter_isSource_inForce second.globals_wordsBefore,
      filter_isSource_inForce first.globals_wordsBefore, alone, List.perm_singleton] at same
    exact ⟨word, same⟩

end Rearranged

/-- Whatever is changed, the words go together and the same words count. -/
theorem Arrangement.Sound.rearranged (sound : first.Sound)
    (changed : Relation.ReflTransGen Rearranged first other) :
    other.Sound ∧ other.words.Perm first.words := by
  induction changed with
  | refl => exact ⟨sound, .refl _⟩
  | tail _ step sofar =>
      obtain ⟨sofar, same⟩ := sofar
      exact ⟨step.sound sofar, (step.words_perm sofar).trans same⟩

end Rearranging

/-! ## Arrangements of a command line -/

section Arguments

variable {action : Action} {words before behind : List Word} {arguments : List String}
  {settings : Settings}

/-- Words that are spelled are a list of words in their spellings. -/
theorem SpelledAll.exists_units (spelled : SpelledAll words arguments) :
    ∃ units : List SpelledWord, units.map SpelledWord.word = words ∧
      units.flatMap SpelledWord.arguments = arguments := by
  induction spelled with
  | nil => exact ⟨[], rfl, rfl⟩
  | cons first _ rest =>
      obtain ⟨units, rfl, rfl⟩ := rest
      exact ⟨⟨_, _, first⟩ :: units, rfl, rfl⟩

theorem spelledAll_units (units : List SpelledWord) :
    SpelledAll (units.map SpelledWord.word) (units.flatMap SpelledWord.arguments) := by
  induction units with
  | nil => exact .nil
  | cons unit _ rest => exact .cons unit.spelled rest

/-- A command line without two dashes alone is an arrangement of its words. -/
theorem Line.exists_arrangement (line : Line action before behind arguments)
    (unmarked : "--" ∉ arguments) :
    ∃ arrangement : Arrangement action, arrangement.arguments = arguments := by
  obtain ⟨front, back, rfl, spelled, spelledBehind⟩ := line.spelled
  obtain ⟨fore, rfl, rfl⟩ := spelled.exists_units
  cases spelledBehind with
  | unmarked spelled =>
      obtain ⟨hind, rfl, rfl⟩ := spelled.exists_units
      have globals : ∀ unit ∈ fore, unit.word.isGlobal := List.forall_mem_map.mp line.globals
      have fitting : ∀ unit ∈ hind, unit.word.fits action := List.forall_mem_map.mp line.fitting
      exact ⟨⟨fore, hind, globals, fitting⟩, rfl⟩
  | marked => simp at unmarked

namespace Invocation

/-- Where a command line is accepted, no two words before the action are of one kind. -/
theorem distinctKinds_of_ofRest (spelled : SpelledAll words arguments)
    (globals : ∀ word ∈ words, word.isGlobal) (distinct : distinctKinds before)
    {rest : List String} (read : ofRest before (arguments ++ rest) = .run settings) :
    distinctKinds (before ++ words) := by
  -- reading stops at the first kind that is repeated, and a stop is no run
  induction spelled generalizing before with
  | nil => rwa [List.append_nil]
  | @cons word arguments words others first behind sofar =>
      have allowed : word.allowed .before := globals word List.mem_cons_self
      rw [List.append_assoc] at read
      rcases Word.ofLong?_of_spelled first allowed (others ++ rest) with
        ⟨path, rfl, -⟩ | ⟨argument, name, value, behind, split, seen, found⟩
      · cases allowed
      · rw [split, ofRest_cons_option seen found] at read
        split at read
        · rename_i single
          rw [List.append_cons]
          exact sofar (fun word member => globals word (List.mem_cons_of_mem _ member)) single read
        · exact absurd read (ofFault_ne_run _ _ _ settings)

/-- An arrangement is accepted if its words go together, and asks for what they ask for. -/
theorem ofArguments_arrangement_iff {arrangement : Arrangement action} :
    ofArguments arrangement.arguments = .run settings ↔
      arrangement.Sound ∧ settings = Settings.ofWords action [] arrangement.words := by
  have fore := spelledAll_units arrangement.before
  have hind := spelledAll_units arrangement.behind
  have globals := arrangement.globals_wordsBefore
  have fitting := arrangement.fits_wordsBehind
  unfold Arrangement.words
  rw [Settings.ofWords_inForce globals]
  constructor
  · intro read
    have distinct : distinctKinds ([] ++ arrangement.wordsBefore) :=
      distinctKinds_of_ofRest fore globals (by decide) read
    unfold ofArguments Arrangement.arguments at read
    rw [ofRest_of_spelledAll fore globals distinct, ofRest_cons_name, ofAction_eq_run_iff] at read
    obtain ⟨behind, words, found⟩ := read
    rw [words?_of_spelledBehind (.unmarked hind) fitting] at words
    cases words
    obtain ⟨⟨once, source⟩, same⟩ := Settings.ofWords?_eq_some_iff.mp found
    exact ⟨⟨distinctKinds_iff.mp distinct, once, source⟩, same⟩
  · rintro ⟨sound, rfl⟩
    have spelled : ∃ front back, arrangement.arguments = front ++ action.name :: back ∧
        SpelledAll arrangement.wordsBefore front ∧
        SpelledBehind arrangement.wordsBehind back :=
      ⟨_, _, rfl, fore, .unmarked hind⟩
    exact ofArguments_eq_run_iff.mpr ⟨_, _, _, ⟨globals, fitting, spelled⟩, sound, rfl⟩

end Invocation

/-- A command line that is accepted without two dashes alone is an arrangement of words. Whatever
arrangement this can be brought into is accepted as well and asks for the same. -/
theorem ofArguments_rearranged (accepted : Invocation.ofArguments arguments = .run settings)
    (unmarked : "--" ∉ arguments) :
    (∃ first : Arrangement settings.action, first.arguments = arguments) ∧
      ∀ (action : Action) (first other : Arrangement action), first.arguments = arguments →
        Relation.ReflTransGen Rearranged first other →
          Invocation.ofArguments other.arguments = .run settings := by
  constructor
  · obtain ⟨action, before, behind, line, -, rfl⟩ :=
      Invocation.ofArguments_eq_run_iff.mp accepted
    exact line.exists_arrangement unmarked
  · rintro action first other rfl changed
    obtain ⟨sound, rfl⟩ := Invocation.ofArguments_arrangement_iff.mp accepted
    obtain ⟨sofar, same⟩ := sound.rearranged changed
    -- what is asked for depends on the words that count, of which an arrangement is only an order
    rw [Settings.ofWords_perm same.symm (nodup_inForce sound)]
    exact Invocation.ofArguments_arrangement_iff.mpr ⟨sofar, rfl⟩

/-- Of two verbosities the one before the action is left out, and then the switch goes behind the
action, between the words that stand there in another order. -/
theorem ofArguments_rearranged_switch :
    Invocation.ofArguments
        ["--loglevel=debug", "--strict", "info", "--hex", "1210", "--loglevel", "trace"] =
      .run { action := .info, source := { hex := some "1210" }, strict := true,
             verbosity := .trace } ∧
    Invocation.ofArguments ["info", "--loglevel", "trace", "--strict", "--hex", "1210"] =
      .run { action := .info, source := { hex := some "1210" }, strict := true,
             verbosity := .trace } := by
  let debug : SpelledWord :=
    ⟨.verbosity .debug, ["--loglevel=debug"], @Word.Spelled.joined _ "loglevel" "debug" rfl⟩
  let trace : SpelledWord :=
    ⟨.verbosity .trace, ["--loglevel", "trace"],
      @Word.Spelled.apart _ "loglevel" "trace" rfl (by decide)⟩
  let strict : SpelledWord := ⟨.strict, ["--strict"], @Word.Spelled.switch _ "strict" rfl⟩
  let hex : SpelledWord :=
    ⟨.hex "1210", ["--hex", "1210"], @Word.Spelled.apart _ "hex" "1210" rfl (by decide)⟩
  let first : Arrangement .info :=
    ⟨[debug, strict], [hex, trace], by simp [debug, strict, Word.isGlobal],
      by simp [hex, trace, Word.fits]⟩
  let shorter : Arrangement .info :=
    ⟨[strict], [hex, trace], by simp [strict, Word.isGlobal], by simp [hex, trace, Word.fits]⟩
  let moved : Arrangement .info :=
    ⟨[], [trace, strict, hex], by simp, by simp [trace, strict, hex, Word.fits]⟩
  have accepted : Invocation.ofArguments first.arguments = .run
      { action := .info, source := { hex := some "1210" }, strict := true, verbosity := .trace } :=
    Invocation.ofArguments_arrangement_iff.mpr ⟨⟨by decide, by decide, _, rfl⟩, rfl⟩
  have dropped : Rearranged first shorter := .dropped (.refl _) (.refl _) (by decide)
  have postponed : Rearranged shorter moved :=
    .postponed (.refl _) (@List.perm_append_comm _ [trace] [strict, hex]) (by decide)
  exact ⟨accepted, (ofArguments_rearranged accepted (by decide)).2 .info first moved rfl
    ((Relation.ReflTransGen.single dropped).tail postponed)⟩

end Arguments

end AacConfig.Command
