import AacConfig.Command.Run
import AacConfig.Proofs.CommandLine
import AacConfig.Proofs.Nesting
import AacConfig.Proofs.Reporting

/-!
# Outcomes of actions

What the parts of a run end in, and which events they add to the log. None of
them looks at the log, so each one adds the same events behind whatever was
logged before (`Ends`), and the outcome of an action is put together from the
place that its words name, the bytes at that place, and what the action makes
of them (`Settings.ends_of_gives`, `Settings.ends_of_denies`).
-/

namespace AacConfig

/-- A report is refused for a strict caller only, and never for at most two bytes. -/
theorem Report.analyze_eq_error_iff {data : List UInt8} {strict : Bool} {reason : DecodeError} :
    (Report.analyze strict data).1 = .error reason ↔
      strict = true ∧ DecoderMode.headerBytes < data.length ∧
        DecoderConfig.decode data = .error reason := by
  rw [Report.analyze_eq]
  cases strict with
  | false => simp
  | true =>
      -- a strict caller is refused where the mode is, and two bytes are not decoded for one
      rcases Nat.lt_or_ge DecoderMode.headerBytes data.length with long | short
      · rw [if_pos rfl, DecoderMode.ofBytes_of_lt long, and_iff_right rfl, and_iff_right long]
        cases DecoderConfig.decode data with
        | ok config => exact ⟨nofun, nofun⟩
        | error found => simp [Except.map]
      · rw [if_pos rfl, DecoderMode.ofBytes_of_le short]
        exact ⟨nofun, fun given => absurd given.2.1 (Nat.not_lt.mpr short)⟩

namespace Command

open Log

/-! ## Steps -/

section Steps

variable {α β : Type} {first : Step α} {second : α → Step β} {value : α} {failure : Failure}
  {result : Except Failure β} {events more : List Event}

/-- A step that ends in a result and logs some events behind whatever was logged before. -/
def Ends (step : Step α) (result : Except Failure α) (events : List Event) : Prop :=
  ∀ earlier, step earlier =
    match result with
    | .ok value => .ok value (earlier ++ events)
    | .error failure => .error failure (earlier ++ events)

theorem ends_pure (value : α) : Ends (pure value) (.ok value) [] := by
  intro earlier
  rw [List.append_nil]
  rfl

theorem ends_throw (failure : Failure) : Ends (throw failure : Step α) (.error failure) [] := by
  intro earlier
  rw [List.append_nil]
  rfl

theorem ends_log (events : List Event) : Ends (log events) (.ok ()) events :=
  fun _ => rfl

theorem Ends.bind (start : Ends first (.ok value) events) (rest : Ends (second value) result more) :
    Ends (first >>= second) result (events ++ more) := by
  intro earlier
  rw [bind_of_ok (start earlier), rest, List.append_assoc]

theorem Ends.bind_silent (start : Ends first (.ok value) events)
    (rest : Ends (second value) result []) : Ends (first >>= second) result events := by
  rw [← List.append_nil events]
  exact start.bind rest

theorem Ends.bind_error (start : Ends first (.error failure) events) :
    Ends (first >>= second) (.error failure) events := by
  intro earlier
  rw [bind_of_error (start earlier)]

end Steps

/-! ## Streams -/

namespace ByteStream

variable {stream : ByteStream} {data : List UInt8} {failure : Failure}

/-- The bytes that a stream gives, which ends behind no more of them than an input may have. -/
inductive Gives (stream : ByteStream) : List UInt8 → Prop
  | ended (last : stream.ending = none) (fits : stream.bytes.length ≤ greatestInput) :
      Gives stream stream.bytes

/-- Why a stream gives no bytes: it cannot be read to its end, or it goes on for too long. -/
inductive Denies (stream : ByteStream) : Failure → Prop
  | broken {reason : SystemError} (last : stream.ending = some reason)
      (early : stream.bytes.length ≤ greatestInput) : Denies stream (.system reason)
  | oversized (long : greatestInput < stream.bytes.length) : Denies stream .oversized

theorem gives_or_denies (stream : ByteStream) :
    (∃ data, stream.Gives data) ∨ ∃ failure, stream.Denies failure := by
  rcases Nat.lt_or_ge greatestInput stream.bytes.length with long | fits
  · exact .inr ⟨_, .oversized long⟩
  · cases last : stream.ending with
    | none => exact .inl ⟨_, .ended last fits⟩
    | some reason => exact .inr ⟨_, .broken last fits⟩

theorem Gives.ends (gives : stream.Gives data) : Ends stream.read (.ok data) [] := by
  cases gives with
  | ended last fits =>
      have front : stream.front (greatestInput + 1) = .ok stream.bytes := by
        rw [front, if_pos (Nat.lt_succ_of_le fits), last]
      simp only [read, front, if_neg (Nat.not_lt.mpr fits)]
      exact ends_pure stream.bytes

theorem Denies.ends (denies : stream.Denies failure) : Ends stream.read (.error failure) [] := by
  cases denies with
  | @broken reason last early =>
      have front : stream.front (greatestInput + 1) = .error reason := by
        rw [front, if_pos (Nat.lt_succ_of_le early), last]
      simp only [read, front]
      exact ends_throw (.system reason)
  | oversized long =>
      -- one byte more than fits is there, and what stands behind it is not read
      have many : greatestInput < (stream.bytes.take (greatestInput + 1)).length := by
        rw [List.length_take]
        omega
      simp only [read, front_of_le (Nat.succ_le_of_lt long), if_pos many]
      exact ends_throw .oversized

end ByteStream

/-! ## Sources -/

/-- Surroundings with nothing in them. -/
def Surroundings.empty : Surroundings where
  standardInput := { bytes := [] }
  openPath _ := .error .notFound

/-- The place that a word names. -/
def Word.source? : Word → Option Source
  | hex text => some (.hex text)
  | input path => some (if path = "-" then .standardInput else .file path)
  | _ => none

namespace Source

variable {around : Surroundings} {source : Source} {data : List UInt8} {failure : Failure}

/-- The bytes that a place gives: those that its text spells, or those of its stream. -/
inductive Gives (around : Surroundings) : Source → List UInt8 → Prop
  | hex {text : String} {data : List UInt8} (parsed : Hex.parse text = .ok data) :
      Gives around (.hex text) data
  | standardInput {data : List UInt8} (gives : around.standardInput.Gives data) :
      Gives around .standardInput data
  | file {path : String} {stream : ByteStream} {data : List UInt8}
      (opened : around.openPath path = .ok stream) (gives : stream.Gives data) :
      Gives around (.file path) data

/-- Why a place gives no bytes. -/
inductive Denies (around : Surroundings) : Source → Failure → Prop
  | hex {text : String} {reason : Hex.Error} (refused : Hex.parse text = .error reason) :
      Denies around (.hex text) (.hex reason)
  | standardInput {failure : Failure} (denies : around.standardInput.Denies failure) :
      Denies around .standardInput failure
  | closed {path : String} {reason : SystemError}
      (refused : around.openPath path = .error reason) :
      Denies around (.file path) (.system reason)
  | file {path : String} {stream : ByteStream} {failure : Failure}
      (opened : around.openPath path = .ok stream) (denies : stream.Denies failure) :
      Denies around (.file path) failure

/-- The event of reading at a place. -/
def reading : Source → List Event
  | hex _ => []
  | standardInput => [.readingStandardInput]
  | file path => [.readingFile path]

theorem gives_or_denies (around : Surroundings) (source : Source) :
    (∃ data, source.Gives around data) ∨ ∃ failure, source.Denies around failure := by
  cases source with
  | hex text =>
      cases parsed : Hex.parse text with
      | ok data => exact .inl ⟨data, .hex parsed⟩
      | error reason => exact .inr ⟨_, .hex parsed⟩
  | standardInput =>
      rcases around.standardInput.gives_or_denies with ⟨data, gives⟩ | ⟨failure, denies⟩
      · exact .inl ⟨data, .standardInput gives⟩
      · exact .inr ⟨failure, .standardInput denies⟩
  | file path =>
      cases opened : around.openPath path with
      | error reason => exact .inr ⟨_, .closed opened⟩
      | ok stream =>
          rcases stream.gives_or_denies with ⟨data, gives⟩ | ⟨failure, denies⟩
          · exact .inl ⟨data, .file opened gives⟩
          · exact .inr ⟨failure, .file opened denies⟩

theorem Gives.ends (gives : source.Gives around data) :
    Ends (source.read around) (.ok data) source.reading := by
  cases gives with
  | hex parsed =>
      rw [read, parsed]
      exact ends_pure data
  | standardInput gives => exact (ends_log _).bind_silent gives.ends
  | file opened gives =>
      rw [read, opened]
      exact (ends_log _).bind_silent gives.ends

/-- What is too long is refused once it was read. -/
theorem Denies.ends_of_oversized (denies : source.Denies around .oversized) :
    Ends (source.read around) (.error .oversized) source.reading := by
  cases denies with
  | standardInput denies => exact (ends_log _).bind_silent denies.ends
  | file opened denies =>
      rw [read, opened]
      exact (ends_log _).bind_silent denies.ends

theorem Denies.ends (denies : source.Denies around failure) :
    ∃ events, Ends (source.read around) (.error failure) events := by
  cases denies with
  | hex refused =>
      rw [read, refused]
      exact ⟨_, ends_throw _⟩
  | standardInput denies => exact ⟨_, (ends_log _).bind_silent denies.ends⟩
  | closed refused =>
      rw [read, refused]
      exact ⟨_, ends_throw _⟩
  | file opened denies =>
      rw [read, opened]
      exact ⟨_, (ends_log _).bind_silent denies.ends⟩

end Source

/-! ## Actions -/

namespace Settings

variable {settings : Settings} {around : Surroundings} {source : Source} {data : List UInt8}
  {failure : Failure}

/-- What an action makes of a configuration. -/
def answer (settings : Settings) (data : List UInt8) : Except Failure String :=
  match settings.action with
  | .info =>
      ((Report.analyze settings.strict data).1.map settings.reportFormat.render).mapError .refused
  | .esds =>
      ((Descriptor.build data).map fun descriptor => Hex.render descriptor ++ "\n").mapError
        .tooLong

/-- The events of carrying out an action. -/
def working (settings : Settings) (data : List UInt8) : List Event :=
  match settings.action with
  | .info => .analyzing data :: (Report.analyze settings.strict data).2
  | .esds => [.wrapping data.length]

/-- How an action ends on the bytes of a configuration. -/
def work (settings : Settings) (data : List UInt8) : Outcome :=
  { result := settings.answer data, events := settings.working data }

/-- An action as a step on the bytes of a configuration. -/
def act (settings : Settings) (data : List UInt8) : Step String :=
  match settings.action with
  | .info => info settings.reportFormat settings.strict data
  | .esds => esds data

theorem ends_act (settings : Settings) (data : List UInt8) :
    Ends (settings.act data) (settings.answer data) (settings.working data) := by
  unfold act answer working
  cases settings.action with
  | info =>
      unfold info
      generalize Report.analyze settings.strict data = analysis
      obtain ⟨outcome, events⟩ := analysis
      refine (ends_log [.analyzing data]).bind ((ends_log events).bind_silent ?_)
      cases outcome with
      | ok report => exact ends_pure _
      | error reason => exact ends_throw _
  | esds =>
      unfold esds
      refine (ends_log [.wrapping data.length]).bind_silent ?_
      cases Descriptor.build data with
      | ok descriptor => exact ends_pure _
      | error reason => exact ends_throw _

theorem mapError_map_eq_error_iff {α ε : Type} {result : Except ε α} {render : α → String}
    {wrap : ε → Failure} :
    (result.map render).mapError wrap = .error failure ↔
      ∃ reason, result = .error reason ∧ failure = wrap reason := by
  cases result with
  | ok value => exact ⟨nofun, nofun⟩
  | error reason =>
      constructor
      · intro same
        cases same
        exact ⟨reason, rfl, rfl⟩
      · rintro ⟨found, same, rfl⟩
        cases same
        rfl

/-- A descriptor is refused for its length, and a report for a strict caller only. -/
theorem answer_eq_error_iff :
    settings.answer data = .error failure ↔
      (settings.action = .esds ∧ Descriptor.greatestLength < data.length ∧
        failure = .tooLong { length := data.length }) ∨
      (settings.action = .info ∧ settings.strict = true ∧
        DecoderMode.headerBytes < data.length ∧
        ∃ reason, DecoderConfig.decode data = .error reason ∧ failure = .refused reason) := by
  unfold answer
  cases settings.action with
  | esds =>
      simp only [mapError_map_eq_error_iff, Descriptor.build_eq_error_iff]
      constructor
      · rintro ⟨reason, ⟨long, rfl⟩, rfl⟩
        exact .inl ⟨trivial, long, rfl⟩
      · rintro (⟨-, long, rfl⟩ | ⟨other, -⟩)
        · exact ⟨_, ⟨long, rfl⟩, rfl⟩
        · cases other
  | info =>
      simp only [mapError_map_eq_error_iff, Report.analyze_eq_error_iff]
      constructor
      · rintro ⟨reason, ⟨strict, long, refused⟩, rfl⟩
        exact .inr ⟨trivial, strict, long, reason, refused, rfl⟩
      · rintro (⟨other, -⟩ | ⟨-, strict, long, reason, refused, rfl⟩)
        · cases other
        · exact ⟨reason, ⟨strict, long, refused⟩, rfl⟩

theorem perform_eq (settings : Settings) (around : Surroundings) :
    settings.perform around =
      settings.source.source >>= fun source => source.read around >>= settings.act := rfl

theorem outcome_of_ends {result : Except Failure String} {events : List Event}
    (ends : Ends (settings.perform around) result events) :
    settings.outcome around = { result, events } := by
  unfold outcome
  rw [ends []]
  cases result with
  | ok text => rfl
  | error reason => rfl

/-- The bytes at the place that the words name go to the action. -/
theorem ends_of_gives (named : settings.source.source = pure source)
    (gives : source.Gives around data) :
    Ends (settings.perform around) (settings.answer data)
      (source.reading ++ settings.working data) := by
  rw [perform_eq, named, pure_bind]
  exact gives.ends.bind (settings.ends_act data)

theorem ends_of_denies (named : settings.source.source = pure source)
    (denies : source.Denies around failure) :
    ∃ events, Ends (settings.perform around) (.error failure) events := by
  obtain ⟨events, ends⟩ := denies.ends
  rw [perform_eq, named, pure_bind]
  exact ⟨events, ends.bind_error⟩

theorem ends_of_oversized (named : settings.source.source = pure source)
    (denies : source.Denies around .oversized) :
    Ends (settings.perform around) (.error .oversized) source.reading := by
  rw [perform_eq, named, pure_bind]
  exact denies.ends_of_oversized.bind_error

end Settings

/-- Some word names a place, or none does. -/
theorem SourceWords.source_eq (words : SourceWords) :
    (∃ source, words.source = pure source) ∨ words.source = throw .noSource := by
  unfold SourceWords.source
  split
  · exact .inl ⟨_, rfl⟩
  · exact .inl ⟨_, rfl⟩
  · exact .inl ⟨_, rfl⟩
  · exact .inr rfl

/-- No part of a run takes notice of what was logged before. -/
theorem Settings.ends_perform (settings : Settings) (around : Surroundings) :
    Ends (settings.perform around) (settings.outcome around).result
      (settings.outcome around).events := by
  -- the outcome is a run on an empty log, so any result that holds for every log is the outcome's
  have some : ∃ result events, Ends (settings.perform around) result events := by
    rcases settings.source.source_eq with ⟨source, named⟩ | missing
    · rcases Source.gives_or_denies around source with ⟨data, gives⟩ | ⟨failure, denies⟩
      · exact ⟨_, _, Settings.ends_of_gives named gives⟩
      · exact ⟨_, Settings.ends_of_denies named denies⟩
    · rw [Settings.perform_eq, missing]
      exact ⟨_, _, (ends_throw .noSource).bind_error⟩
  obtain ⟨result, events, ends⟩ := some
  rwa [Settings.outcome_of_ends ends]

/-! ## Responses -/

/-- The text for standard output, if there is one. -/
def Outcome.output (outcome : Outcome) : String :=
  match outcome.result with
  | .ok text => text
  | .error _ => ""

/-- The failure, if there is one. -/
def Outcome.failure (outcome : Outcome) : Option Failure :=
  match outcome.result with
  | .ok _ => none
  | .error failure => some failure

theorem Outcome.response_eq (outcome : Outcome) (settings : Settings)
    (environment : Environment) :
    outcome.response settings environment =
      .completed outcome.output (settings.records environment outcome.events)
        outcome.failure := by
  unfold response output failure
  cases outcome.result with
  | ok text => rfl
  | error failure => rfl

theorem Settings.records_append (settings : Settings) (environment : Environment)
    (first second : List Event) :
    settings.records environment (first ++ second) =
      settings.records environment first ++ settings.records environment second := by
  simp only [records, Environment.visible, List.filter_append, List.map_append]

/-! ## Words -/

section Words

variable {action : Action} {before behind : List Word} {word : Word}

/-- The words that say where the configuration comes from are those that name a place. -/
theorem Word.isSource_iff : word.isSource = true ↔ ∃ source, word.source? = some source := by
  cases word with
  | hex | input => exact iff_of_true rfl ⟨_, rfl⟩
  | verbosity | lineFormat | strict | reportFormat => exact ⟨nofun, nofun⟩

/-- The only source is one of the words. -/
theorem mem_of_filter_isSource (only : behind.filter Word.isSource = [word]) :
    word ∈ behind ∧ word.isSource = true := by
  rw [← List.mem_filter, only]
  exact List.mem_singleton_self word

/-- What sources tell is told by the only source. -/
theorem findSome?_of_source {α : Type} {kind : Kind} {find : Word → Option α}
    (tells : Tells kind find) (source : kind ∈ sourceKinds)
    (only : behind.filter Word.isSource = [word]) : behind.findSome? find = find word := by
  rw [← findSome?_isSource tells source, only, List.findSome?_cons]
  cases find word with
  | none => rfl
  | some found => rfl

theorem source_ofWords {source : Source} (action : Action) (before : List Word)
    (only : behind.filter Word.isSource = [word]) (named : word.source? = some source) :
    (Settings.ofWords action before behind).source.source = pure source := by
  have hex := findSome?_of_source tells_hex (by decide) only
  have input := findSome?_of_source tells_input (by decide) only
  simp only [Settings.ofWords, hex, input, SourceWords.source]
  cases word with
  | hex text =>
      cases named
      rfl
  | input path =>
      cases named
      by_cases dash : path = "-"
      · subst dash
        rfl
      · simp only [Word.hex?, Word.input?, if_neg dash]
  | verbosity | lineFormat | strict | reportFormat => cases named

/-- What a caller sees of a command line is the outcome of what its words ask for. -/
theorem respond_of_line {arguments : List String} (line : Line action before behind arguments)
    (together : GoTogether before behind) (around : Surroundings) (environment : Environment) :
    respond arguments around environment =
      ((Settings.ofWords action before behind).outcome around).response
        (Settings.ofWords action before behind) environment := by
  rw [respond, Invocation.ofArguments_eq_run_iff.mpr ⟨action, before, behind, line, together, rfl⟩]

end Words

end Command

end AacConfig
