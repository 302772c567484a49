import AacConfig.Proofs.Outcome

/-!
# How a run ends

A run is refused with its arguments, or ends with a failure and no text, or
tells about the program, or ends with a text and no failure (`respond_exits`).
For a command line of an action there is exactly one source, and the failures
are those of the relation `Fails`: the source gives no bytes, there are too many
bytes for a descriptor, or the bytes are refused and somebody is strict about
it. Strictness means nothing to a descriptor.
-/

namespace AacConfig

/-! ## Wordings -/

theorem append_ne_empty {first second : String} (filled : first ≠ "" ∨ second ≠ "") :
    first ++ second ≠ "" := by
  rw [Ne, String.append_eq_empty_iff]
  exact fun empty => filled.elim (· empty.1) (· empty.2)

theorem DecodeError.message_ne_empty (reason : DecodeError) : reason.message ≠ "" := by
  cases reason with
  | truncated | reservedFrequencyIndex => exact append_ne_empty (.inr (by decide))
  | unsupported => exact append_ne_empty (.inl (by decide))

theorem Hex.Error.message_ne_empty (reason : Hex.Error) : reason.message ≠ "" := by
  cases reason with
  | oddCount | invalidPair => exact append_ne_empty (.inr (by decide))

namespace Command

open Log

theorem SystemError.message_ne_empty (reason : SystemError) : reason.message ≠ "" := by
  cases reason with
  | notFound | notDirectory | isDirectory | nameTooLong => decide
  | other => exact append_ne_empty (.inr (by decide))

/-- Every failure has a wording. -/
theorem Failure.message_ne_empty (failure : Failure) : failure.message ≠ "" := by
  cases failure with
  | noSource => decide
  | hex reason => exact reason.message_ne_empty
  | system reason => exact reason.message_ne_empty
  | refused reason => exact reason.message_ne_empty
  | oversized | tooLong => exact append_ne_empty (.inr (by decide))

/-! ## Failures of an action -/

/-- Why the action of a command line fails. -/
inductive Fails (around : Surroundings) (action : Action) (before behind : List Word) :
    Failure → Prop
  /-- The place that is named gives no bytes. -/
  | denied {word : Word} {source : Source} {failure : Failure} (member : word ∈ behind)
      (named : word.source? = some source) (denies : source.Denies around failure) :
      Fails around action before behind failure
  /-- The bytes are too many for a descriptor. -/
  | tooLong {word : Word} {source : Source} {data : List UInt8} (wraps : action = .esds)
      (member : word ∈ behind) (named : word.source? = some source)
      (gives : source.Gives around data) (long : 232 < data.length) :
      Fails around action before behind (.tooLong { length := data.length })
  /-- The bytes are more than two and refused, and a report is to be strict about it. -/
  | refused {word : Word} {source : Source} {data : List UInt8} {reason : DecodeError}
      (reports : action = .info) (strict : .strict ∈ before ++ behind) (member : word ∈ behind)
      (named : word.source? = some source) (gives : source.Gives around data)
      (long : 2 < data.length) (refused : DecoderConfig.decode data = .error reason) :
      Fails around action before behind (.refused reason)

section Words

variable {around : Surroundings} {action : Action} {before behind : List Word}
  {arguments : List String} {failure : Failure} {environment : Environment}

/-- A word that names a place is the only source. -/
theorem GoTogether.filter_eq {word : Word} {source : Source} (together : GoTogether before behind)
    (member : word ∈ behind) (named : word.source? = some source) :
    behind.filter Word.isSource = [word] := by
  obtain ⟨only, filtered⟩ := together.source
  have found : word ∈ behind.filter Word.isSource :=
    List.mem_filter.mpr ⟨member, Word.isSource_iff.mpr ⟨source, named⟩⟩
  rw [filtered, List.mem_singleton] at found
  rw [filtered, found]

theorem strict_ofWords_iff :
    (Settings.ofWords action before behind).strict = true ↔ .strict ∈ before ++ behind := by
  rw [Settings.ofWords, List.contains_iff_mem, List.mem_append, List.mem_append, or_comm]

/-- What the settings of words end in, told by the words. -/
theorem result_eq_error_iff (together : GoTogether before behind) :
    ((Settings.ofWords action before behind).outcome around).result = .error failure ↔
      Fails around action before behind failure := by
  constructor
  · intro ended
    obtain ⟨word, only⟩ := together.source
    obtain ⟨member, told⟩ := mem_of_filter_isSource only
    obtain ⟨source, named⟩ := Word.isSource_iff.mp told
    have place := source_ofWords action before only named
    rcases Source.gives_or_denies around source with ⟨data, gives⟩ | ⟨reason, denies⟩
    · rw [Settings.outcome_of_ends (Settings.ends_of_gives place gives)] at ended
      rcases Settings.answer_eq_error_iff.mp ended with
        ⟨wraps, long, rfl⟩ | ⟨reports, strict, long, reason, refused, rfl⟩
      · exact .tooLong wraps member named gives long
      · exact .refused reports (strict_ofWords_iff.mp strict) member named gives long refused
    · obtain ⟨events, ends⟩ := Settings.ends_of_denies place denies
      rw [Settings.outcome_of_ends ends] at ended
      cases ended
      exact .denied member named denies
  · intro fails
    -- whichever word a reason is about, it is the only source, so its place is the one that is read
    cases fails with
    | denied member named denies =>
        have place := source_ofWords action before (together.filter_eq member named) named
        obtain ⟨events, ends⟩ := Settings.ends_of_denies place denies
        rw [Settings.outcome_of_ends ends]
    | tooLong wraps member named gives long =>
        have place := source_ofWords action before (together.filter_eq member named) named
        rw [Settings.outcome_of_ends (Settings.ends_of_gives place gives)]
        exact Settings.answer_eq_error_iff.mpr (.inl ⟨wraps, long, rfl⟩)
    | refused reports strict member named gives long refused =>
        have place := source_ofWords action before (together.filter_eq member named) named
        rw [Settings.outcome_of_ends (Settings.ends_of_gives place gives)]
        exact Settings.answer_eq_error_iff.mpr
          (.inr ⟨reports, strict_ofWords_iff.mpr strict, long, _, refused, rfl⟩)

/-- A failure is reported without any text, exactly where the action fails with it. -/
theorem respond_eq_failure_iff (line : Line action before behind arguments)
    (together : GoTogether before behind) :
    (∃ records, respond arguments around environment = .completed "" records (some failure)) ↔
      Fails around action before behind failure := by
  rw [respond_of_line line together, ← result_eq_error_iff together]
  generalize (Settings.ofWords action before behind).outcome around = outcome
  obtain ⟨reason | text, events⟩ := outcome
  · simp [Outcome.response]
  · simp [Outcome.response]

/-- The exit code of a command line of an action tells whether there is a failure. -/
theorem exitCode_respond_iff (line : Line action before behind arguments)
    (together : GoTogether before behind) :
    (respond arguments around environment).exitCode = 1 ↔
      ∃ failure, Fails around action before behind failure := by
  simp only [← result_eq_error_iff together]
  rw [respond_of_line line together]
  generalize (Settings.ofWords action before behind).outcome around = outcome
  obtain ⟨reason | text, events⟩ := outcome
  · simp [Outcome.response, Response.exitCode]
  · simp [Outcome.response, Response.exitCode]

/-- A missing source is never the failure of the command line of an action. -/
theorem respond_ne_noSource (line : Line action before behind arguments)
    (together : GoTogether before behind) (output : String) (records : List String) :
    respond arguments around environment ≠ .completed output records (some .noSource) := by
  have named : ((Settings.ofWords action before behind).outcome around).result ≠
      .error .noSource := by
    intro ended
    -- the only failure that is no refusal of bytes comes from the place, and it has other reasons
    cases (result_eq_error_iff together).mp ended with
    | denied member named denies =>
        cases denies with
        | standardInput denies => cases denies
        | file opened denies => cases denies
  rw [respond_of_line line together]
  generalize (Settings.ofWords action before behind).outcome around = outcome at named
  obtain ⟨reason | text, events⟩ := outcome
  · simpa [Outcome.response] using fun _ _ same => named (congrArg Except.error same)
  · simp [Outcome.response]

/-! ## Strictness -/

theorem act_of_esds {settings : Settings} (wraps : settings.action = .esds) (strict : Bool) :
    { settings with strict }.act = settings.act := by
  funext data
  simp only [Settings.act, wraps]

/-- The outcome of wrapping does not depend on strictness. -/
theorem outcome_of_esds {settings : Settings} (wraps : settings.action = .esds) (strict : Bool) :
    { settings with strict }.outcome around = settings.outcome around := by
  simp only [Settings.outcome, Settings.perform_eq, act_of_esds wraps strict]

/-- Besides strictness, settings are those of the words without it. -/
theorem ofWords_eq_without_strict (action : Action) (before behind : List Word) :
    Settings.ofWords action before behind =
      { Settings.ofWords action (without [.strict] before) (without [.strict] behind) with
        strict := (behind ++ before).contains .strict } := by
  simp only [Settings.ofWords, List.findSome?_append,
    findSome?_without tells_hex (by decide : .hex ∉ [Kind.strict]),
    findSome?_without tells_input (by decide : .input ∉ [Kind.strict]),
    findSome?_without tells_reportFormat (by decide : .reportFormat ∉ [Kind.strict]),
    findSome?_without tells_verbosity (by decide : .verbosity ∉ [Kind.strict]),
    findSome?_without tells_lineFormat (by decide : .lineFormat ∉ [Kind.strict])]

end Words

/-! ## Every run -/

/-- A run is refused with its arguments, or has a failure and no text, or no failure: it tells about
the program, or has a text. The exit code says which. The command line of an action has exactly one
source, and it fails exactly for the reasons above, of which a missing source is none. Wrapping does
the same with and without strictness. -/
theorem respond_exits (arguments : List String) (around : Surroundings)
    (environment : Environment) :
    (respond arguments around environment = .usageError ∧
        (respond arguments around environment).exitCode = 2 ∨
      (∃ records failure,
        respond arguments around environment = .completed "" records (some failure) ∧
        failure.message ≠ "" ∧ (respond arguments around environment).exitCode = 1) ∨
      ((∃ notice, respond arguments around environment = .told notice) ∨
        ∃ output records,
          respond arguments around environment = .completed output records none) ∧
        (respond arguments around environment).exitCode = 0) ∧
    (∀ settings, Invocation.ofArguments arguments = .run settings →
      ∃ before behind, Line settings.action before behind arguments ∧
        GoTogether before behind ∧
        ((respond arguments around environment).exitCode = 1 ↔
          ∃ failure, Fails around settings.action before behind failure) ∧
        (∀ failure,
          (∃ records,
            respond arguments around environment = .completed "" records (some failure)) ↔
              Fails around settings.action before behind failure) ∧
        ∀ output records,
          respond arguments around environment ≠ .completed output records (some .noSource)) ∧
    (∀ before behind strictArguments strictBefore strictBehind,
      Line .esds before behind arguments → GoTogether before behind →
      Line .esds strictBefore strictBehind strictArguments →
      GoTogether strictBefore strictBehind →
      without [.strict] strictBefore = without [.strict] before →
      without [.strict] strictBehind = without [.strict] behind →
      respond strictArguments around environment = respond arguments around environment) := by
  refine ⟨?_, ?_, ?_⟩
  · cases read : Invocation.ofArguments arguments with
    | refused => simp [respond, read, Response.exitCode]
    | told notice => simp [respond, read, Response.exitCode]
    | run settings =>
        have answered : respond arguments around environment =
            (settings.outcome around).response settings environment := by
          rw [respond, read]
        rw [answered]
        obtain ⟨failure | text, events⟩ := settings.outcome around
        · exact .inr (.inl ⟨_, failure, rfl, failure.message_ne_empty, rfl⟩)
        · exact .inr (.inr ⟨.inr ⟨text, _, rfl⟩, rfl⟩)
  · intro settings runs
    obtain ⟨action, before, behind, line, together, rfl⟩ :=
      Invocation.ofArguments_eq_run_iff.mp runs
    refine ⟨before, behind, line, together, exitCode_respond_iff line together,
      fun failure => respond_eq_failure_iff line together, respond_ne_noSource line together⟩
  · intro before behind strictArguments strictBefore strictBehind line together strictLine
      strictTogether sameBefore sameBehind
    rw [respond_of_line strictLine strictTogether, respond_of_line line together,
      ofWords_eq_without_strict .esds strictBefore, ofWords_eq_without_strict .esds before,
      sameBefore, sameBehind, outcome_of_esds rfl, outcome_of_esds rfl]
    rfl

/-- Three bytes that end within the flags, reported strictly, and wrapped with and without
strictness. -/
theorem respond_exits_threeBytes :
    (respond ["--strict", "info", "--hex=eb8a08"] .empty { time := "" }).exitCode = 1 ∧
    (∃ before behind, Line .info before behind ["--strict", "info", "--hex=eb8a08"] ∧
      ∃ failure, Fails .empty .info before behind failure) ∧
    respond ["esds", "--hex=eb8a08", "--strict"] .empty { time := "" } =
      respond ["esds", "--hex=eb8a08"] .empty { time := "" } := by
  have strict : Word.Spelled .strict ["--strict"] := @Word.Spelled.switch _ "strict" rfl
  have hex : Word.Spelled (.hex "eb8a08") ["--hex=eb8a08"] :=
    @Word.Spelled.joined _ "hex" "eb8a08" rfl
  have info : Line .info [.strict] [.hex "eb8a08"] ["--strict", "info", "--hex=eb8a08"] :=
    ⟨by decide, by decide, _, _, rfl, .cons strict .nil, .unmarked (.cons hex .nil)⟩
  have esds : Line .esds [] [.hex "eb8a08"] ["esds", "--hex=eb8a08"] :=
    ⟨by decide, by decide, [], _, rfl, .nil, .unmarked (.cons hex .nil)⟩
  have strictEsds : Line .esds [] [.hex "eb8a08", .strict] ["esds", "--hex=eb8a08", "--strict"] :=
    ⟨by decide, by decide, [], _, rfl, .nil, .unmarked (.cons hex (.cons strict .nil))⟩
  have infoTogether : GoTogether [.strict] [.hex "eb8a08"] := ⟨by decide, by decide, _, rfl⟩
  have esdsTogether : GoTogether [] [.hex "eb8a08"] := ⟨by decide, by decide, _, rfl⟩
  have strictTogether : GoTogether [] [.hex "eb8a08", .strict] := ⟨by decide, by decide, _, rfl⟩
  have parsed : Hex.parse "eb8a08" = .ok [0xEB, 0x8A, 0x08] := rfl
  have refused : DecoderConfig.decode [0xEB, 0x8A, 0x08] = .error (.truncated 1 24 0) := rfl
  have fails : Fails .empty .info [.strict] [.hex "eb8a08"] (.refused (.truncated 1 24 0)) :=
    .refused rfl (by decide) List.mem_cons_self rfl (.hex parsed) (by decide) refused
  have one : (respond ["--strict", "info", "--hex=eb8a08"] .empty { time := "" }).exitCode = 1 :=
    (exitCode_respond_iff info infoTogether).mpr ⟨_, fails⟩
  have runs := Invocation.ofArguments_eq_run_iff.mpr ⟨_, _, _, info, infoTogether, rfl⟩
  obtain ⟨before, behind, line, -, exits, -⟩ := (respond_exits _ _ { time := "" }).2.1 _ runs
  exact ⟨one, ⟨before, behind, line, exits.mp one⟩,
    (respond_exits _ _ { time := "" }).2.2 _ _ _ _ _ esds esdsTogether strictEsds strictTogether
      (by decide) (by decide)⟩

end Command

end AacConfig
