import AacConfig.Proofs.JsonText
import AacConfig.Proofs.Oblivious
import AacConfig.Proofs.Outcome

/-!
# Logging and the rest of a run

How much is logged, and in which format, has no influence on anything else
(`Command.respond_logging`). Command lines that differ in nothing else carry
out the same action with the same events: the words on logging are dropped
before anything is done, and nothing that is done looks at the log
(`Settings.ends_perform`). Decoding and the selection of a mode are given their
verbosity, and come to the same with each one (`DecoderConfig.attempt_heard`,
`DecoderMode.selectOrPlainAt_eq`).

The records of a verbosity are a selection from the records of the greatest
one, in their order. The environment may set a verbosity of its own for a
module, whose records are then the same for every verbosity of the command line
(`Log.Environment.visible_eq_filter_trace`).

In JSON a record is the line of its event, as it is where records are coloured,
and otherwise without the control character U+007F. JSON does not escape that
character, and a record without colours shows none (`Log.record_json`).
-/

namespace AacConfig

/-! ## JSON records -/

namespace Text

/-- A text without the control character U+007F. -/
def withoutDelete (text : String) : String :=
  String.ofList (text.toList.filter (· ≠ '\x7f'))

theorem shows_of_le_toNat {character : Char} (printable : 0x20 ≤ character.toNat)
    (other : character ≠ '\x7f') : ControlState.text.shows character = true := by
  have code : character.toNat ≠ 0x7F := fun same => other (Char.toNat_inj.mp same)
  simp only [ControlState.shows, isBetween, Bool.or_eq_true, Bool.and_eq_true,
    decide_eq_true_eq, Char.le_def, Char.lt_def, UInt32.le_iff_toNat_le, UInt32.lt_iff_toNat_lt]
  show (_ ∨ 0x20 ≤ character.toNat ∧ character.toNat ≤ 0x7E) ∨ 0x7F < character.toNat
  omega

/-- Characters that are shown, and U+007F, reach a screen in the text state, which keeps it. -/
theorem shown_foldl_write_of_shows (characters : List Char) (screen : Screen)
    (inText : screen.state = .text)
    (shows : ∀ character ∈ characters, character ≠ '\x7f' →
      ControlState.text.shows character = true) :
    (characters.foldl Screen.write screen).shown =
      (characters.filter (· ≠ '\x7f')).reverse ++ screen.shown := by
  induction characters generalizing screen with
  | nil => rfl
  | cons character rest shown =>
      obtain ⟨first, others⟩ := List.forall_mem_cons.mp shows
      -- U+007F only turns the screen off, and the next character that is shown turns it on again
      by_cases delete : character = '\x7f'
      · subst delete
        have written : screen.write '\x7f' = { screen with showing := false } := by
          obtain ⟨state, showing, before⟩ := screen
          cases inText
          cases showing
          all_goals rfl
        rw [List.foldl_cons, written, shown { screen with showing := false } inText others]
        simp
      · have written : screen.write character =
            { state := .text, showing := true, shown := character :: screen.shown } := by
          simp [Screen.write, inText, first delete]
        rw [List.foldl_cons, written, shown _ rfl others]
        simp [delete]

theorem shownText_eq_withoutDelete {text : String}
    (shows : ∀ character ∈ text.toList, character ≠ '\x7f' →
      ControlState.text.shows character = true) : shownText text = withoutDelete text := by
  rw [shownText, shown_foldl_write_of_shows text.toList {} rfl shows, List.append_nil,
    List.reverse_reverse]
  rfl

end Text

namespace Log

/-- What is written of a record for programs: its line, without the control character U+007F unless
records are coloured. -/
def jsonRecord (environment : Environment) (event : Event) : String :=
  let line := jsonLine environment.time event.severity event.message
  (if environment.coloured then line else Text.withoutDelete line) ++ "\n"

theorem record_json (environment : Environment) (event : Event) :
    LineFormat.json.record environment event = jsonRecord environment event := by
  have shows : ∀ character ∈
      (jsonLine environment.time event.severity event.message ++ "\n").toList,
      character ≠ '\x7f' → Text.ControlState.text.shows character = true := by
    intro character member other
    rw [String.toList_append, List.mem_append] at member
    rcases member with inside | last
    · exact Text.shows_of_le_toNat (Json.le_toNat_of_mem_renderObject inside) other
    · cases List.mem_singleton.mp last
      rfl
  unfold LineFormat.record LineFormat.line jsonRecord
  cases environment.coloured with
  | true => rfl
  | false =>
      simp only [Bool.false_eq_true, if_false]
      rw [Text.shownText_eq_withoutDelete shows]
      simp [Text.withoutDelete, String.ofList_append]

end Log

/-! ## Selections -/

namespace Log

/-- The greatest verbosity never keeps a record back that another one lets through. -/
theorem admits_verbosityOf_trace {environment : Environment} {verbosity : Verbosity}
    {event : Event}
    (admitted : (environment.verbosityOf verbosity event).admits event.severity = true) :
    (environment.verbosityOf .trace event).admits event.severity = true := by
  unfold Environment.verbosityOf at admitted ⊢
  -- a verbosity of the module's own is the same for every verbosity of the command line
  cases own : environment.verbosity? event.target with
  | none => exact admits_trace event.severity
  | some verbosity =>
      rw [own] at admitted
      exact admitted

/-- What a verbosity lets through is a selection from what the greatest one lets through. A module
to which the environment gives a verbosity has the same part in both. -/
theorem Environment.visible_eq_filter_trace (environment : Environment) (verbosity : Verbosity)
    (events : List Event) :
    environment.visible verbosity events =
      (environment.visible .trace events).filter fun event =>
        (environment.verbosityOf verbosity event).admits event.severity := by
  unfold visible
  rw [List.filter_filter]
  refine List.filter_congr fun event _ => ?_
  cases admitted : (environment.verbosityOf verbosity event).admits event.severity with
  | false => rfl
  | true => rw [admits_verbosityOf_trace admitted, Bool.true_and, Bool.true_and]

end Log

/-! ## Runs -/

namespace Command

open Log

/-- The kinds of words on logging. -/
def loggingKinds : List Kind := [.verbosity, .lineFormat]

/-- Besides logging, settings are those of the words without the words on it. -/
theorem ofWords_eq_without_logging (action : Action) (before behind : List Word) :
    Settings.ofWords action before behind =
      { Settings.ofWords action (without loggingKinds before) (without loggingKinds behind) with
        verbosity := (Settings.ofWords action before behind).verbosity
        lineFormat := (Settings.ofWords action before behind).lineFormat } := by
  simp only [Settings.ofWords, List.contains_append,
    findSome?_without tells_hex (by decide : .hex ∉ loggingKinds),
    findSome?_without tells_input (by decide : .input ∉ loggingKinds),
    findSome?_without tells_reportFormat (by decide : .reportFormat ∉ loggingKinds),
    contains_strict_without (by decide : .strict ∉ loggingKinds)]

/-- Command lines of an action that differ in the words on logging at most end with the same text
and the same failure. Their records are those of the same events in the same order, in their plain
form or as lines in JSON, and a verbosity selects them from those of the greatest one: by their
severity alone where the environment sets no verbosity for their modules, and alike for every
verbosity where it does. An action ends alike whatever was logged before it.

Decoding a byte string and selecting a mode by it come to the same with every verbosity and behind
every log, and log what the verbosity lets through of what they log with the greatest one. -/
theorem respond_logging (around : Surroundings) (environment : Environment) :
    (∀ action silentBefore silentBehind,
      ∃ (output : String) (failure : Option Failure) (events : List Event),
        (∀ verbosity, environment.visible verbosity events =
          (environment.visible .trace events).filter fun event =>
            ((environment.verbosity? event.target).getD verbosity).admits event.severity) ∧
        ∀ before behind arguments, Line action before behind arguments →
          GoTogether before behind → without loggingKinds before = silentBefore →
          without loggingKinds behind = silentBehind →
          ((Settings.ofWords action before behind).lineFormat = .plain →
            respond arguments around environment =
              .completed output
                ((environment.visible (Settings.ofWords action before behind).verbosity
                  events).map (LineFormat.plain.record environment))
                failure) ∧
          ((Settings.ofWords action before behind).lineFormat = .json →
            respond arguments around environment =
              .completed output
                ((environment.visible (Settings.ofWords action before behind).verbosity
                  events).map (jsonRecord environment))
                failure)) ∧
    (∀ settings : Settings, Ends (settings.perform around) (settings.outcome around).result
      (settings.outcome around).events) ∧
    (∀ prior data earlier verbosity,
      Production.whole.attempt
          { DecodeState.start prior data with events := earlier, verbosity } =
        { state := (DecoderConfig.overwriteAt .trace prior data).state.heard earlier verbosity
          refusal := (DecoderConfig.overwriteAt .trace prior data).refusal }) ∧
    ∀ verbosity prior data,
      ((DecoderConfig.overwriteAt verbosity prior data).result =
          (DecoderConfig.overwriteAt .trace prior data).result ∧
        (DecoderConfig.overwriteAt verbosity prior data).events =
          (DecoderConfig.overwriteAt .trace prior data).events.filter fun event =>
            verbosity.admits event.severity) ∧
      (DecoderMode.selectAt verbosity data).1 = (DecoderMode.selectAt .trace data).1 ∧
      (DecoderMode.selectAt verbosity data).2 =
        (DecoderMode.selectAt .trace data).2.filter (fun event =>
          verbosity.admits event.severity) ∧
      (DecoderMode.selectOrPlainAt verbosity data).1 =
        (DecoderMode.selectOrPlainAt .trace data).1 ∧
      (DecoderMode.selectOrPlainAt verbosity data).2 =
        (DecoderMode.selectOrPlainAt .trace data).2.filter fun event =>
          verbosity.admits event.severity := by
  refine ⟨?_, fun settings => settings.ends_perform around, DecoderConfig.attempt_heard, ?_⟩
  · intro action silentBefore silentBehind
    -- the words that both lines share already settle the outcome
    let outcome := (Settings.ofWords action silentBefore silentBehind).outcome around
    refine ⟨outcome.output, outcome.failure, outcome.events,
      fun verbosity => environment.visible_eq_filter_trace verbosity _, ?_⟩
    intro before behind arguments line together sameBefore sameBehind
    have same : (Settings.ofWords action before behind).outcome around = outcome := by
      rw [ofWords_eq_without_logging, sameBefore, sameBehind]
      rfl
    rw [respond_of_line line together, same, Outcome.response_eq]
    constructor
    · intro plain
      rw [Settings.records, plain]
    · intro json
      rw [Settings.records, json, List.map_congr_left fun event _ => record_json environment event]
  · intro verbosity prior data
    rw [DecoderMode.selectAt_eq, DecoderMode.selectOrPlainAt_eq]
    exact ⟨⟨DecoderConfig.result_overwriteAt verbosity prior data,
      DecoderConfig.events_overwriteAt verbosity prior data⟩, rfl, rfl, rfl, rfl⟩

/-- The file of a name, wrapped with two kinds of words on logging, where the environment wants
records of one module although the command line turns the log off. -/
theorem respond_logging_file :
    ∃ (environment : Environment) (output : String) (failure : Option Failure)
        (events : List Event),
      environment.verbosity? "mp4ascd::cli" = some .debug ∧
      respond ["--loglevel=off", "esds", "a"]
        { Surroundings.empty with openPath := fun _ => .ok { bytes := [0x12, 0x10] } }
        environment =
          .completed output
            ((environment.visible .off events).map (LineFormat.plain.record environment))
            failure ∧
      respond ["--log-format=json", "esds", "a"]
        { Surroundings.empty with openPath := fun _ => .ok { bytes := [0x12, 0x10] } }
        environment =
          .completed output ((environment.visible .info events).map (jsonRecord environment))
            failure := by
  have verbosity : Word.Spelled (.verbosity .off) ["--loglevel=off"] :=
    @Word.Spelled.joined _ "loglevel" "off" rfl
  have format : Word.Spelled (.lineFormat .json) ["--log-format=json"] :=
    @Word.Spelled.joined _ "log-format" "json" rfl
  have people : Line .esds [.verbosity .off] [.input "a"] ["--loglevel=off", "esds", "a"] :=
    .of_input .esds (by decide) (.cons verbosity .nil) (by decide) (by decide)
  have programs : Line .esds [.lineFormat .json] [.input "a"]
      ["--log-format=json", "esds", "a"] :=
    .of_input .esds (by decide) (.cons format .nil) (by decide) (by decide)
  let environment : Environment :=
    { time := ""
      verbosity? := fun target => if target = "mp4ascd::cli" then some .debug else none }
  obtain ⟨output, failure, events, -, alike⟩ := (respond_logging
    { Surroundings.empty with openPath := fun _ => .ok { bytes := [0x12, 0x10] } }
    environment).1 .esds [] [.input "a"]
  exact ⟨environment, output, failure, events, rfl,
    (alike _ _ _ people ⟨by decide, by decide, _, rfl⟩ rfl rfl).1 rfl,
    (alike _ _ _ programs ⟨by decide, by decide, _, rfl⟩ rfl rfl).2 rfl⟩

/-- The name of a file holds U+007F. The plain log of a run has the records of two events, but the
JSON log of the same run is not made of the lines of these events. -/
theorem respond_logging_delete :
    ∃ output,
      respond ["--loglevel=debug", "esds", "a\x7fb"]
        { Surroundings.empty with openPath := fun _ => .ok { bytes := [0x12, 0x10] } }
        { time := "" } =
          .completed output
            ([.readingFile "a\x7fb", .wrapping 2].map (LineFormat.plain.record { time := "" }))
            none ∧
      respond ["--loglevel=debug", "--log-format=json", "esds", "a\x7fb"]
        { Surroundings.empty with openPath := fun _ => .ok { bytes := [0x12, 0x10] } }
        { time := "" } ≠
          .completed output
            ([Event.readingFile "a\x7fb", .wrapping 2].map fun event =>
              jsonLine "" event.severity event.message ++ "\n")
            none := by
  have verbosity : Word.Spelled (.verbosity .debug) ["--loglevel=debug"] :=
    @Word.Spelled.joined _ "loglevel" "debug" rfl
  have format : Word.Spelled (.lineFormat .json) ["--log-format=json"] :=
    @Word.Spelled.joined _ "log-format" "json" rfl
  have people : Line .esds [.verbosity .debug] [.input "a\x7fb"]
      ["--loglevel=debug", "esds", "a\x7fb"] :=
    .of_input .esds (by decide) (.cons verbosity .nil) (by decide) (by decide)
  have programs : Line .esds [.verbosity .debug, .lineFormat .json] [.input "a\x7fb"]
      ["--loglevel=debug", "--log-format=json", "esds", "a\x7fb"] :=
    .of_input .esds (by decide) (.cons verbosity (.cons format .nil)) (by decide) (by decide)
  refine ⟨_, respond_of_line people ⟨by decide, by decide, _, rfl⟩ _ _, ?_⟩
  rw [respond_of_line programs ⟨by decide, by decide, _, rfl⟩]
  intro same
  have records := (Response.completed.inj same).2.1
  have first := (List.cons.inj records).1
  revert first
  decide +kernel

end Command

end AacConfig
