import AacConfig.Proofs.Words

/-!
# Reading command lines

An invocation is read off the arguments one by one, and an option may take the
argument behind it as its value. What is read in the end is what the command
line spells: an action is carried out exactly for the command lines of words
that go together, with what these ask for
(`Invocation.ofArguments_eq_run_iff`).

Each reader is taken apart where its arguments are spelled, and put together
again where it succeeds: the look of an argument, the word of an option, the
words behind an action, and the words before it.
-/

namespace AacConfig

theorem Log.Verbosity.ofName?_eq_some_iff {name : String} {value : Log.Verbosity} :
    Log.Verbosity.ofName? name = some value ↔ name = value.name := by
  constructor
  · intro named
    unfold Log.Verbosity.ofName? at named
    split at named
    all_goals cases named
    all_goals rfl
  · rintro rfl
    cases value
    all_goals rfl

theorem Log.LineFormat.ofName?_eq_some_iff {name : String} {value : Log.LineFormat} :
    Log.LineFormat.ofName? name = some value ↔ name = value.name := by
  constructor
  · intro named
    unfold Log.LineFormat.ofName? at named
    split at named
    all_goals cases named
    all_goals rfl
  · rintro rfl
    cases value
    all_goals rfl

namespace Command

theorem ReportFormat.ofName?_eq_some_iff {name : String} {value : ReportFormat} :
    ReportFormat.ofName? name = some value ↔ name = value.name := by
  constructor
  · intro named
    unfold ReportFormat.ofName? at named
    split at named
    all_goals cases named
    all_goals rfl
  · rintro rfl
    cases value
    all_goals rfl

theorem Action.ofName?_eq_some_iff {name : String} {action : Action} :
    Action.ofName? name = some action ↔ name = action.name := by
  constructor
  · intro named
    unfold Action.ofName? at named
    split at named
    all_goals cases named
    all_goals rfl
  · rintro rfl
    cases action
    all_goals rfl

/-! ## The look of an argument -/

namespace Shape

variable {argument name text : String} {value : Option String}

/-- How an option looks with its name, and with its value behind an equals sign if it has one. -/
def optionText (name : String) : Option String → String
  | none => "--" ++ name
  | some value => "--" ++ name ++ "=" ++ value

theorem toList_optionText_some (name value : String) :
    (optionText name (some value)).toList = '-' :: '-' :: (name.toList ++ '=' :: value.toList) := by
  simp [optionText]

theorem toList_optionText_none (name : String) :
    (optionText name none).toList = '-' :: '-' :: name.toList := by
  simp [optionText]

theorem ne_equals_of_not_mem (plain : '=' ∉ name.toList) :
    ∀ character ∈ name.toList, (character != '=') = true := by
  intro character member
  simp only [bne_iff_ne]
  rintro rfl
  exact plain member

/-- An option is seen as one, unless it has no name and no value. -/
theorem ofArgument_optionText (filled : name ≠ "") (plain : '=' ∉ name.toList) :
    ofArgument (optionText name value) = .long name value := by
  have before := ne_equals_of_not_mem plain
  have taken : ∀ rest : List Char, rest.head? = some '=' ∨ rest = [] →
      (name.toList ++ rest).takeWhile (· != '=') = name.toList ∧
        (name.toList ++ rest).dropWhile (· != '=') = rest := by
    intro rest front
    rw [List.takeWhile_append_of_pos before, List.dropWhile_append_of_pos before]
    rcases front with equals | rfl
    · cases rest with
      | nil => cases equals
      | cons first others =>
          cases equals
          simp
    · simp
  -- two dashes alone would be the separator, so the name has a first letter
  have named : name.toList ≠ [] := by
    intro empty
    exact filled (String.ext empty)
  obtain ⟨first, letters, split⟩ := List.exists_cons_of_ne_nil named
  cases value with
  | none =>
      obtain ⟨front, behind⟩ := taken [] (.inr rfl)
      rw [List.append_nil] at front behind
      unfold ofArgument
      rw [toList_optionText_none]
      simp only [split] at front behind ⊢
      simp only [front, behind]
      rw [← split, String.ofList_toList]
  | some value =>
      obtain ⟨front, behind⟩ := taken ('=' :: value.toList) (.inl rfl)
      unfold ofArgument
      rw [toList_optionText_some]
      simp only [split, List.cons_append] at front behind ⊢
      simp only [front, behind]
      rw [← split, String.ofList_toList, String.ofList_toList]

theorem eq_of_ofArgument_plain (seen : ofArgument argument = .plain text) : argument = text := by
  unfold ofArgument at seen
  split at seen
  · cases seen
  · split at seen
    · cases seen
    · cases seen
  · cases seen
  · exact Shape.plain.inj seen

theorem eq_of_ofArgument_separator (seen : ofArgument argument = .separator) :
    argument = "--" := by
  unfold ofArgument at seen
  split at seen
  · rename_i dashes
    exact String.ext dashes
  · split at seen
    · cases seen
    · cases seen
  · cases seen
  · cases seen

theorem eq_of_ofArgument_long (seen : ofArgument argument = .long name value) :
    argument = optionText name value := by
  unfold ofArgument at seen
  split at seen
  · cases seen
  · rename_i option _ dashes
    have joined : option.takeWhile (· != '=') ++ option.dropWhile (· != '=') = option :=
      List.takeWhile_append_dropWhile
    refine String.ext ?_
    split at seen
    · rename_i ended
      cases seen
      rw [ended, List.append_nil] at joined
      rw [toList_optionText_none, String.toList_ofList, joined, dashes]
    · rename_i first text begun
      cases seen
      have equals : first = '=' := by
        have stopped := List.head?_dropWhile_not (· != '=') option
        rw [begun] at stopped
        simpa using stopped
      rw [begun, equals] at joined
      rw [toList_optionText_some, String.toList_ofList, String.toList_ofList, joined, dashes]
  · cases seen
  · cases seen

end Shape

/-! ## The words of options -/

/-- Whether a word may stand at a place. -/
def Word.allowed (word : Word) : Place → Bool
  | .before => word.isGlobal
  | .behind action => word.fits action

namespace Word

variable {word : Word} {place : Place} {name : String} {value : Option String}
  {arguments rest others : List String}

theorem ofOption?_eq_some_iff :
    ofOption? place name value = some word ↔
      word.option? = some (name, value) ∧ word.allowed place := by
  constructor
  · intro found
    unfold ofOption? at found
    split at found
    · obtain ⟨level, named, rfl⟩ := Option.map_eq_some_iff.mp found
      cases Log.Verbosity.ofName?_eq_some_iff.mp named
      cases place
      all_goals exact ⟨rfl, rfl⟩
    · obtain ⟨format, named, rfl⟩ := Option.map_eq_some_iff.mp found
      cases Log.LineFormat.ofName?_eq_some_iff.mp named
      cases place
      all_goals exact ⟨rfl, rfl⟩
    · cases found
      cases place
      all_goals exact ⟨rfl, rfl⟩
    · cases place with
      | before => cases found
      | behind action =>
          cases found
          exact ⟨rfl, rfl⟩
    · split at found
      · obtain ⟨format, named, rfl⟩ := Option.map_eq_some_iff.mp found
        cases ReportFormat.ofName?_eq_some_iff.mp named
        exact ⟨rfl, rfl⟩
      · cases found
    · cases found
  · rintro ⟨named, allowed⟩
    cases word with
    | verbosity level =>
        cases named
        exact Option.map_eq_some_iff.mpr ⟨level, Log.Verbosity.ofName?_eq_some_iff.mpr rfl, rfl⟩
    | lineFormat format =>
        cases named
        exact Option.map_eq_some_iff.mpr ⟨format, Log.LineFormat.ofName?_eq_some_iff.mpr rfl, rfl⟩
    | strict =>
        cases named
        rfl
    | hex text =>
        cases named
        cases place with
        | before => cases allowed
        | behind action => rfl
    | reportFormat format =>
        cases named
        cases place with
        | before => cases allowed
        | behind action =>
            cases action with
            | esds => cases allowed
            | info =>
                exact Option.map_eq_some_iff.mpr
                  ⟨format, ReportFormat.ofName?_eq_some_iff.mpr rfl, rfl⟩
    | input path => cases named

/-- The name of an option can be told from its value, and says whether there is one. -/
theorem named_of_option? (named : word.option? = some (name, value)) :
    name ≠ "" ∧ '=' ∉ name.toList ∧ hasValue name = value.isSome := by
  cases word with
  | input path => cases named
  | strict =>
      cases named
      decide
  | verbosity | lineFormat | hex | reportFormat =>
      cases named
      exact ⟨by decide, by decide, rfl⟩

/-- What is read as an option is spelled by the arguments that it takes. -/
theorem spelled_of_ofLong? (found : ofLong? place name value rest = some (word, others)) :
    ∃ arguments, word.Spelled arguments ∧
      Shape.optionText name value :: rest = arguments ++ others ∧ word.allowed place := by
  cases value with
  | some text =>
      obtain ⟨read, taken, same⟩ := Option.map_eq_some_iff.mp found
      cases same
      obtain ⟨named, allowed⟩ := ofOption?_eq_some_iff.mp taken
      exact ⟨_, .joined named, rfl, allowed⟩
  | none =>
      unfold ofLong? at found
      split at found
      · split at found
        · rename_i seen
          obtain ⟨read, taken, same⟩ := Option.map_eq_some_iff.mp found
          cases same
          obtain ⟨named, allowed⟩ := ofOption?_eq_some_iff.mp taken
          cases Shape.eq_of_ofArgument_plain seen
          exact ⟨_, .apart named seen, rfl, allowed⟩
        · cases found
      · obtain ⟨read, taken, same⟩ := Option.map_eq_some_iff.mp found
        cases same
        obtain ⟨named, allowed⟩ := ofOption?_eq_some_iff.mp taken
        exact ⟨_, .switch named, rfl, allowed⟩

/-- An option that is spelled is read, and what stands behind it is left. -/
theorem ofLong?_of_spelled (spelled : word.Spelled arguments) (allowed : word.allowed place)
    (rest : List String) :
    (∃ path, word = .input path ∧ arguments = [path] ∧ path ≠ "" ∧
        Shape.ofArgument path = .plain path) ∨
      ∃ argument name value behind, arguments ++ rest = argument :: behind ∧
        Shape.ofArgument argument = .long name value ∧
        ofLong? place name value behind = some (word, rest) := by
  cases spelled with
  | input filled plain => exact .inl ⟨_, rfl, rfl, filled, plain⟩
  | switch named =>
      obtain ⟨filled, plain, single⟩ := named_of_option? named
      have taken := ofOption?_eq_some_iff.mpr ⟨named, allowed⟩
      refine .inr ⟨_, _, none, rest, rfl, @Shape.ofArgument_optionText _ none filled plain, ?_⟩
      simp [ofLong?, single, taken]
  | joined named =>
      obtain ⟨filled, plain, -⟩ := named_of_option? named
      have taken := ofOption?_eq_some_iff.mpr ⟨named, allowed⟩
      refine .inr ⟨_, _, _, rest, rfl, @Shape.ofArgument_optionText _ (some _) filled plain, ?_⟩
      simp [ofLong?, taken]
  | apart named seen =>
      obtain ⟨filled, plain, double⟩ := named_of_option? named
      have taken := ofOption?_eq_some_iff.mpr ⟨named, allowed⟩
      refine .inr ⟨_, _, none, _, rfl, @Shape.ofArgument_optionText _ none filled plain, ?_⟩
      simp [ofLong?, double, seen, taken]

end Word

/-! ## The words behind an action -/

section Behind

variable {action : Action} {word : Word} {words : List Word} {argument name : String}
  {value : Option String} {arguments rest others : List String}

theorem SpelledBehind.cons (first : word.Spelled arguments) (behind : SpelledBehind words rest) :
    SpelledBehind (word :: words) (arguments ++ rest) := by
  cases behind with
  | unmarked spelled => exact .unmarked (.cons first spelled)
  | marked spelled filled =>
      rw [← List.append_assoc, ← List.cons_append]
      exact .marked (.cons first spelled) filled

theorem mapM_ofInput?_eq_some_iff {paths : List String} :
    paths.mapM Word.ofInput? = some words ↔
      words = paths.map .input ∧ ∀ path ∈ paths, path ≠ "" := by
  induction paths generalizing words with
  | nil => simp [eq_comm]
  | cons path paths others =>
      by_cases empty : path = ""
      · simp [Word.ofInput?, empty]
      · have split : (path :: paths).mapM Word.ofInput? =
            (paths.mapM Word.ofInput?).map (.input path :: ·) := by
          rw [List.mapM_cons, Word.ofInput?, if_neg empty]
          cases paths.mapM Word.ofInput?
          all_goals rfl
        rw [split, Option.map_eq_some_iff, List.forall_mem_cons, and_iff_right empty]
        simp only [others]
        constructor
        · rintro ⟨inputs, ⟨rfl, filled⟩, rfl⟩
          exact ⟨rfl, filled⟩
        · rintro ⟨rfl, filled⟩
          exact ⟨_, ⟨rfl, filled⟩, rfl⟩

theorem words?_cons_separator (seen : Shape.ofArgument argument = .separator) :
    words? action (argument :: rest) = rest.mapM Word.ofInput? := by
  rw [words?, seen]

theorem words?_cons_plain (seen : Shape.ofArgument argument = .plain argument)
    (filled : argument ≠ "") :
    words? action (argument :: rest) = (words? action rest).map (.input argument :: ·) := by
  rw [words?, seen]
  simp only [Word.ofInput?, if_neg filled]
  cases words? action rest
  all_goals rfl

theorem words?_cons_long (seen : Shape.ofArgument argument = .long name value)
    (found : Word.ofLong? (.behind action) name value rest = some (word, others)) :
    words? action (argument :: rest) = (words? action others).map (word :: ·) := by
  rw [words?, seen]
  simp only
  split
  · rename_i none
    rw [found] at none
    cases none
  · rename_i same
    rw [found] at same
    cases same
    cases words? action others
    all_goals rfl

/-- A word that is spelled in front is read. -/
theorem words?_of_spelled (spelled : word.Spelled arguments) (fits : word.fits action)
    (rest : List String) :
    words? action (arguments ++ rest) = (words? action rest).map (word :: ·) := by
  have allowed : word.allowed (.behind action) := fits
  rcases Word.ofLong?_of_spelled spelled allowed rest with
    ⟨path, rfl, rfl, filled, plain⟩ | ⟨argument, name, value, behind, split, seen, found⟩
  · exact words?_cons_plain plain filled
  · rw [split, words?_cons_long seen found]

theorem words?_of_spelledAll (spelled : SpelledAll words arguments)
    (fits : ∀ word ∈ words, word.fits action) (rest : List String) :
    words? action (arguments ++ rest) = (words? action rest).map (words ++ ·) := by
  induction spelled with
  | nil => simp
  | cons first others read =>
      rw [List.append_assoc, words?_of_spelled first (fits _ List.mem_cons_self),
        read fun word member => fits word (List.mem_cons_of_mem _ member), Option.map_map]
      rfl

theorem words?_of_spelledBehind (spelled : SpelledBehind words arguments)
    (fits : ∀ word ∈ words, word.fits action) : words? action arguments = some words := by
  cases spelled with
  | unmarked spelled =>
      have read := words?_of_spelledAll spelled fits []
      simpa [words?] using read
  | @marked words arguments paths spelled filled =>
      have dashes : Shape.ofArgument "--" = .separator := by decide
      rw [words?_of_spelledAll spelled fun word member => fits word (List.mem_append_left _ member),
        words?_cons_separator dashes, mapM_ofInput?_eq_some_iff.mpr ⟨rfl, filled⟩]
      rfl

/-- What is read behind an action is spelled there. -/
theorem spelledBehind_of_words? (read : words? action arguments = some words) :
    SpelledBehind words arguments ∧ ∀ word ∈ words, word.fits action := by
  -- an option takes one argument or two, so the induction is the reader's and not on the list
  fun_induction words? action arguments generalizing words with
  | case1 =>
      cases read
      exact ⟨.unmarked .nil, nofun⟩
  | case2 argument rest seen =>
      obtain ⟨rfl, filled⟩ := mapM_ofInput?_eq_some_iff.mp read
      cases Shape.eq_of_ofArgument_separator seen
      refine ⟨.marked .nil filled, ?_⟩
      intro word member
      obtain ⟨path, -, rfl⟩ := List.mem_map.mp member
      rfl
  | case3 => cases read
  | case4 argument rest text seen others =>
      obtain ⟨word, first, read⟩ := Option.bind_eq_some_iff.mp read
      obtain ⟨words, behind, same⟩ := Option.bind_eq_some_iff.mp read
      cases same
      obtain ⟨spelled, fits⟩ := others behind
      cases Shape.eq_of_ofArgument_plain seen
      unfold Word.ofInput? at first
      split at first
      · cases first
      · rename_i filled
        cases first
        exact ⟨.cons (.input filled seen) spelled, List.forall_mem_cons.mpr ⟨rfl, fits⟩⟩
  | case5 => cases read
  | case6 argument rest name value seen word behind found others =>
      obtain ⟨words, behind, same⟩ := Option.bind_eq_some_iff.mp read
      cases same
      obtain ⟨spelled, fits⟩ := others behind
      obtain ⟨arguments, first, split, fit⟩ := Word.spelled_of_ofLong? found
      cases Shape.eq_of_ofArgument_long seen
      rw [split]
      exact ⟨.cons first spelled, List.forall_mem_cons.mpr ⟨fit, fits⟩⟩

end Behind

/-! ## Words that go together -/

section Together

variable {action : Action} {before behind words : List Word}

theorem distinctKinds_iff : distinctKinds words = true ↔ (words.map Word.kind).Nodup :=
  decide_eq_true_iff

/-- Of sources of different kinds there is one if one of the two kinds is there alone. -/
theorem isSome_ne_isSome_iff {sources : List Word} (distinct : (sources.map Word.kind).Nodup)
    (all : ∀ word ∈ sources, word.isSource) :
    ((sources.findSome? Word.hex?).isSome != (sources.findSome? Word.input?).isSome) = true ↔
      ∃ word, sources = [word] := by
  -- there are two kinds of sources, so a third one repeats a kind: two words decide every case
  match sources with
  | [] => simp
  | [.hex text] => simp [Word.hex?, Word.input?]
  | [.input path] => simp [Word.hex?, Word.input?]
  | .hex text :: .input path :: rest => simp [List.findSome?, Word.hex?, Word.input?]
  | .input path :: .hex text :: rest => simp [List.findSome?, Word.hex?, Word.input?]
  | .hex text :: .hex other :: rest => simp [Word.kind] at distinct
  | .input path :: .input other :: rest => simp [Word.kind] at distinct
  | .verbosity _ :: _ | .lineFormat _ :: _ | .strict :: _ | .reportFormat _ :: _ =>
      have source := all _ List.mem_cons_self
      cases source
  | _ :: .verbosity _ :: _ | _ :: .lineFormat _ :: _ | _ :: .strict :: _
  | _ :: .reportFormat _ :: _ =>
      have source := all _ (List.mem_cons_of_mem _ List.mem_cons_self)
      cases source

theorem isSome_source_iff (distinct : (behind.map Word.kind).Nodup) :
    ((behind.findSome? Word.hex?).isSome != (behind.findSome? Word.input?).isSome) = true ↔
      ∃ word, behind.filter Word.isSource = [word] := by
  rw [← findSome?_isSource tells_hex (by decide), ← findSome?_isSource tells_input (by decide)]
  refine isSome_ne_isSome_iff (distinct.sublist (List.filter_sublist.map _)) ?_
  intro word member
  exact (List.mem_filter.mp member).2

theorem Settings.ofWords?_eq_some_iff {settings : Settings} :
    Settings.ofWords? action before behind = some settings ↔
      ((behind.map Word.kind).Nodup ∧ ∃ word, behind.filter Word.isSource = [word]) ∧
        settings = Settings.ofWords action before behind := by
  have split : Settings.ofWords? action before behind =
      if distinctKinds behind && ((behind.findSome? Word.hex?).isSome !=
          (behind.findSome? Word.input?).isSome) then
        some (Settings.ofWords action before behind)
      else none := rfl
  have together : (distinctKinds behind && ((behind.findSome? Word.hex?).isSome !=
      (behind.findSome? Word.input?).isSome)) = true ↔
        (behind.map Word.kind).Nodup ∧ ∃ word, behind.filter Word.isSource = [word] := by
    rw [Bool.and_eq_true, distinctKinds_iff]
    exact and_congr_right isSome_source_iff
  rw [split, ← together]
  split
  · rename_i accepted
    rw [Option.some_inj, and_iff_right accepted, eq_comm]
  · rename_i refused
    exact ⟨nofun, fun given => absurd given.1 refused⟩

end Together

/-! ## Whole command lines -/

/-- A command line that ends in the action and an input. -/
theorem Line.of_input {before : List Word} {front : List String} {path : String} (action : Action)
    (globals : ∀ word ∈ before, word.isGlobal) (spelled : SpelledAll before front)
    (filled : path ≠ "") (plain : Shape.ofArgument path = .plain path) :
    Line action before [.input path] (front ++ [action.name, path]) where
  globals := globals
  fitting := fun _ member => List.mem_singleton.mp member ▸ rfl
  spelled := ⟨front, [path], rfl, spelled, .unmarked (.cons (.input filled plain) .nil)⟩

namespace Invocation

variable {action : Action} {word : Word} {before behind words : List Word} {argument name : String}
  {value : Option String} {arguments rest others : List String} {settings : Settings}

theorem ofRest_cons_name (before : List Word) (action : Action) (rest : List String) :
    ofRest before (action.name :: rest) = ofAction before action rest := by
  have seen : Shape.ofArgument action.name = .plain action.name := by
    cases action
    all_goals decide
  rw [ofRest, seen]
  simp only [ofName, Action.ofName?_eq_some_iff.mpr rfl]

/-- An option before the action is read where there is none of its kind so far. -/
theorem ofRest_cons_option (seen : Shape.ofArgument argument = .long name value)
    (found : Word.ofLong? .before name value rest = some (word, others)) :
    ofRest before (argument :: rest) =
      if distinctKinds (before ++ [word]) then ofRest (before ++ [word]) others
      else ofFault name value rest := by
  rw [ofRest, seen]
  simp only
  split
  · rename_i same
    rw [found] at same
    cases same
    rfl
  · rename_i none
    rw [found] at none
    cases none

theorem ofRest_cons_long (seen : Shape.ofArgument argument = .long name value)
    (found : Word.ofLong? .before name value rest = some (word, others))
    (distinct : distinctKinds (before ++ [word])) :
    ofRest before (argument :: rest) = ofRest (before ++ [word]) others := by
  rw [ofRest_cons_option seen found, if_pos distinct]

/-- Words that are spelled before the action are read. -/
theorem ofRest_of_spelledAll (spelled : SpelledAll words arguments)
    (globals : ∀ word ∈ words, word.isGlobal) (distinct : distinctKinds (before ++ words))
    (rest : List String) :
    ofRest before (arguments ++ rest) = ofRest (before ++ words) rest := by
  induction spelled generalizing before with
  | nil => simp
  | @cons word arguments words others first behind read =>
      -- the kinds are checked word by word, so those up to this one must be distinct already
      have allowed : word.allowed .before := globals word List.mem_cons_self
      rw [List.append_cons] at distinct
      have sofar : distinctKinds (before ++ [word]) := by
        rw [distinctKinds_iff, List.map_append] at distinct
        exact distinctKinds_iff.mpr (List.nodup_append.mp distinct).1
      have step : ofRest before (arguments ++ (others ++ rest)) =
          ofRest (before ++ [word]) (others ++ rest) := by
        rcases Word.ofLong?_of_spelled first allowed (others ++ rest) with
          ⟨path, rfl, -⟩ | ⟨argument, name, value, behind, split, seen, found⟩
        · cases allowed
        · rw [split, ofRest_cons_long seen found sofar]
      rw [List.append_assoc, step,
        read (fun word member => globals word (List.mem_cons_of_mem _ member)) distinct,
        ← List.append_cons]

theorem ofNotice?_ne_run (notice : Option Notice) (settings : Settings) :
    ofNotice? notice ≠ .run settings := by
  cases notice with
  | none => exact nofun
  | some notice => exact nofun

/-- A fault is never followed by an action. -/
theorem ofFault_ne_run (name : String) (value : Option String) (rest : List String)
    (settings : Settings) : ofFault name value rest ≠ .run settings := by
  unfold ofFault
  split
  · split
    · split
      · exact nofun
      · exact nofun
    · exact nofun
  · exact nofun

theorem ofAction_eq_run_iff :
    ofAction before action arguments = .run settings ↔
      ∃ behind, words? action arguments = some behind ∧
        Settings.ofWords? action before behind = some settings := by
  unfold ofAction
  cases words? action arguments with
  | none =>
      refine ⟨?_, nofun⟩
      intro run
      simp only at run
      split at run
      · cases run
      · split at run
        · cases run
        · cases run
  | some behind =>
      cases found : Settings.ofWords? action before behind with
      | none => simp [found]
      | some settings => simp [found]

theorem ofName_eq_run_iff :
    ofName before name rest = .run settings ↔
      ∃ action, name = action.name ∧ ofAction before action rest = .run settings := by
  unfold ofName
  cases named : Action.ofName? name with
  | none =>
      refine ⟨?_, ?_⟩
      · intro run
        simp only at run
        split at run
        · exact absurd run (ofNotice?_ne_run _ settings)
        · cases run
      · rintro ⟨action, rfl, -⟩
        rw [Action.ofName?_eq_some_iff.mpr rfl] at named
        cases named
  | some action =>
      cases Action.ofName?_eq_some_iff.mp named
      refine ⟨fun run => ⟨action, rfl, run⟩, ?_⟩
      rintro ⟨other, same, run⟩
      have found := Action.ofName?_eq_some_iff.mpr same
      rw [named] at found
      cases found
      exact run

/-- What is read up to the action is spelled there. -/
theorem spelled_of_ofRest (read : ofRest before arguments = .run settings)
    (distinct : distinctKinds before) :
    ∃ action words front back, arguments = front ++ action.name :: back ∧
      SpelledAll words front ∧ (∀ word ∈ words, word.isGlobal) ∧
      distinctKinds (before ++ words) ∧
      ofAction (before ++ words) action back = .run settings := by
  -- by the reading itself: only an action ends it with a run, only options let it go on
  fun_induction ofRest before arguments with
  | case1 | case2 => cases read
  | case3 => exact absurd read (ofNotice?_ne_run _ settings)
  | case4 before argument rest text seen =>
      obtain ⟨action, rfl, run⟩ := ofName_eq_run_iff.mp read
      cases Shape.eq_of_ofArgument_plain seen
      refine ⟨action, [], [], rest, rfl, .nil, nofun, ?_, ?_⟩
      · rwa [List.append_nil]
      · rwa [List.append_nil]
  | case5 before argument rest name value seen word behind found distinctToo others =>
      obtain ⟨action, words, front, back, rfl, spelled, globals, all, run⟩ :=
        others read distinctToo
      obtain ⟨arguments, first, split, allowed⟩ := Word.spelled_of_ofLong? found
      cases Shape.eq_of_ofArgument_long seen
      refine ⟨action, word :: words, arguments ++ front, back, ?_, .cons first spelled,
        List.forall_mem_cons.mpr ⟨allowed, globals⟩, ?_, ?_⟩
      · rw [split, List.append_assoc]
      · rwa [List.append_cons]
      · rwa [List.append_cons]
  | case7 => cases read
  | case6 | case8 => exact absurd read (ofFault_ne_run _ _ _ settings)

/-- An action is carried out for the command lines of words that go together, and what is asked
for is what these words ask for, however they are spelled. -/
theorem ofArguments_eq_run_iff :
    ofArguments arguments = .run settings ↔
      ∃ action before behind, Line action before behind arguments ∧ GoTogether before behind ∧
        settings = Settings.ofWords action before behind := by
  constructor
  · intro read
    obtain ⟨action, before, front, back, split, spelled, globals, distinct, run⟩ :=
      spelled_of_ofRest read (by decide)
    obtain ⟨behind, words, found⟩ := ofAction_eq_run_iff.mp run
    obtain ⟨spelledBehind, fitting⟩ := spelledBehind_of_words? words
    obtain ⟨⟨once, source⟩, same⟩ := Settings.ofWords?_eq_some_iff.mp found
    exact ⟨action, before, behind, ⟨globals, fitting, front, back, split, spelled, spelledBehind⟩,
      ⟨distinctKinds_iff.mp distinct, once, source⟩, same⟩
  · rintro ⟨action, before, behind, line, together, rfl⟩
    obtain ⟨front, back, rfl, spelled, spelledBehind⟩ := line.spelled
    have distinct : distinctKinds ([] ++ before) := distinctKinds_iff.mpr together.onceBefore
    rw [ofArguments, ofRest_of_spelledAll spelled line.globals distinct, ofRest_cons_name,
      ofAction_eq_run_iff]
    exact ⟨behind, words?_of_spelledBehind spelledBehind line.fitting,
      Settings.ofWords?_eq_some_iff.mpr ⟨⟨together.onceBehind, together.source⟩, rfl⟩⟩

end Invocation

end Command

end AacConfig
