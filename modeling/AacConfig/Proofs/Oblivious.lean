import AacConfig.DecoderMode
import AacConfig.Proofs.Truncation

/-!
# The log of productions

A production writes to the log and never reads it. Compared with a run that
logs everything, a run with another verbosity, and with other events logged
before, ends with the same value or refusal, the same record and the same
reader, and of the events it logs those that its verbosity lets through, behind
the others (`Oblivious`). This is an induction over the steps of streaming
productions and another one over guards, so it holds for whole configurations
(`DecoderConfig.attempt_heard`), and with them for the selection of a decoder
mode (`DecoderMode.selectAt_eq`, `DecoderMode.selectOrPlainAt_eq`).
-/

namespace AacConfig

open Log

/-- What a state becomes where a verbosity lets only some of its events through, and other events
were logged before. -/
def DecodeState.heard (earlier : List Event) (verbosity : Verbosity) (state : DecodeState) :
    DecodeState :=
  { state with events := earlier ++ visible verbosity state.events, verbosity }

namespace Production

variable {α β : Type}

/-- What a run comes to with another verbosity, and with other events logged before. -/
def heard (earlier : List Event) (verbosity : Verbosity) :
    EStateM.Result DecodeError DecodeState α → EStateM.Result DecodeError DecodeState α
  | .ok value stop => .ok value (stop.heard earlier verbosity)
  | .error reason stop => .error reason (stop.heard earlier verbosity)

/-- A production that takes no notice of what was logged before, nor of how much is logged. -/
def Oblivious (production : Production α) : Prop :=
  ∀ ⦃state : DecodeState⦄, state.Covered → state.verbosity = .trace → ∀ earlier verbosity,
    production (state.heard earlier verbosity) = heard earlier verbosity (production state)

theorem record_heard (event : Event) {state : DecodeState} (loud : state.verbosity = .trace)
    (earlier : List Event) (verbosity : Verbosity) :
    record event (state.heard earlier verbosity) =
      heard earlier verbosity (record event state) := by
  have all : (state.log event).events = state.events ++ [event] := by
    rw [DecodeState.log, loud, visible_trace]
  have same : (state.heard earlier verbosity).log event =
      (state.log event).heard earlier verbosity := by
    simp only [DecodeState.heard, all, visible_append, ← List.append_assoc]
    rfl
  exact congrArg (EStateM.Result.ok ()) same

namespace Oblivious

theorem take {width : Nat} {value : List Bool → α} {step : Production α}
    (takes : Takes width value step) : Oblivious step := by
  intro state covered loud earlier verbosity
  rw [takes covered, @takes (state.heard earlier verbosity) covered]
  by_cases fits : width ≤ state.reader.available
  · rw [if_pos fits]
    exact if_pos fits
  · rw [if_neg fits]
    exact if_neg fits

theorem bind {first : Production α} {second : α → Production β} (start : Oblivious first)
    (forward : MovesForward first) (rest : ∀ value, Oblivious (second value)) :
    Oblivious (first >>= second) := by
  intro state covered loud earlier verbosity
  have leads := forward covered
  cases found : first state with
  | error reason middle =>
      have again : first (state.heard earlier verbosity) =
          .error reason (middle.heard earlier verbosity) := by
        rw [start covered loud earlier verbosity, found]
        rfl
      rw [bind_of_error found, bind_of_error again]
      rfl
  | ok value middle =>
      rw [found] at leads
      have again : first (state.heard earlier verbosity) =
          .ok value (middle.heard earlier verbosity) := by
        rw [start covered loud earlier verbosity, found]
        rfl
      rw [bind_of_ok found, bind_of_ok again]
      -- the first run keeps its verbosity, so the second one logs everything as well
      exact rest value leads.covered (leads.verbosity.trans loud) earlier verbosity

theorem guarded {inner : Production Unit} (oblivious : Oblivious inner) (width : Nat) :
    Oblivious (guarded width inner) := by
  intro state covered loud earlier verbosity
  unfold Production.guarded
  by_cases many : width ≤ state.reader.available
  · rw [if_pos many, ← oblivious covered loud earlier verbosity]
    exact if_pos many
  · rw [if_neg many]
    exact if_neg many

theorem absorbing {production : Production Unit} (oblivious : Oblivious production)
    (forward : MovesForward production) : Oblivious (absorbing production) := by
  intro state covered loud earlier verbosity
  have leads := forward covered
  unfold Production.absorbing
  rw [oblivious covered loud earlier verbosity]
  cases found : production state with
  | ok value stop => rfl
  | error reason stop =>
      rw [found] at leads
      cases reason with
      | unsupported feature => exact record_heard _ (leads.verbosity.trans loud) earlier verbosity
      | truncated | reservedFrequencyIndex => rfl

end Oblivious

/-- No streaming production takes notice of the log. -/
theorem Streaming.oblivious {count : Nat} {production : Production α}
    (streaming : Streaming count production) : Oblivious production := by
  induction streaming with
  | pure value => exact fun _ _ _ _ _ => rfl
  | throw lasting => exact fun _ _ _ _ _ => rfl
  | record event =>
      exact fun _ _ loud earlier verbosity => record_heard event loud earlier verbosity
  | update change => exact fun _ _ _ _ _ => rfl
  | config => exact fun _ _ _ _ _ => rfl
  | take takes => exact .take takes
  | bind start rest startOblivious restOblivious =>
      exact startOblivious.bind start.accounts.movesForward restOblivious
  | weaken streaming fits oblivious => exact oblivious

/-- Guards look at the bits that are left, not at the log. -/
theorem Guarded.oblivious {production : Production Unit} (guarded : Guarded production) :
    Oblivious production := by
  induction guarded with
  | streaming streaming => exact streaming.oblivious
  | behind start rest oblivious =>
      exact start.oblivious.bind start.accounts.movesForward oblivious
  | before start rest granted oblivious =>
      exact oblivious.bind start.resumes.forward fun value => (rest value).oblivious
  | guard width inside oblivious => exact oblivious.guarded width
  | absorbing inside oblivious => exact oblivious.absorbing inside.resumes.forward

end Production

namespace DecoderConfig

/-- Decoding with any verbosity and behind some logged events refuses the same, fills in the same
record, and logs behind them what the verbosity lets through of the events that there are. -/
theorem attempt_heard (prior : DecoderConfig) (data : List UInt8) (earlier : List Event)
    (verbosity : Verbosity) :
    Production.whole.attempt
        { DecodeState.start prior data with events := earlier, verbosity } =
      { state := (overwrite prior data).state.heard earlier verbosity
        refusal := (overwrite prior data).refusal } := by
  have start : (DecodeState.start prior data).heard earlier verbosity =
      { DecodeState.start prior data with events := earlier, verbosity } := by
    simp only [DecodeState.heard, DecodeState.start, visible, List.filter_nil, List.append_nil]
  have same := Production.Guarded.whole.oblivious (DecodeState.covered_start prior data) rfl
    earlier verbosity
  rw [start] at same
  rw [overwrite_eq, Production.attempt, Production.attempt, same]
  cases Production.whole (DecodeState.start prior data) with
  | ok value stop => rfl
  | error reason stop => rfl

section Verbosity

variable (verbosity : Verbosity) (prior : DecoderConfig) (data : List UInt8)

theorem overwriteAt_eq_heard :
    overwriteAt verbosity prior data =
      { state := (overwrite prior data).state.heard [] verbosity
        refusal := (overwrite prior data).refusal } :=
  attempt_heard prior data [] verbosity

/-- Decoding comes to the same with every verbosity. -/
theorem result_overwriteAt :
    (overwriteAt verbosity prior data).result = (overwrite prior data).result := by
  rw [overwriteAt_eq_heard]
  rfl

/-- A verbosity takes its events from those that there are. -/
theorem events_overwriteAt :
    (overwriteAt verbosity prior data).events =
      visible verbosity (overwrite prior data).events := by
  rw [overwriteAt_eq_heard]
  rfl

end Verbosity

end DecoderConfig

namespace DecoderMode

variable (verbosity : Verbosity) (data : List UInt8)

/-- Selecting a mode comes to the same with every verbosity, which takes its events from those that
there are. -/
theorem selectAt_eq :
    selectAt verbosity data = ((select data).1, visible verbosity (select data).2) := by
  by_cases short : data.length ≤ headerBytes
  · simp only [select, selectAt, if_pos short]
    rfl
  · simp only [select, selectAt, if_neg short, DecoderConfig.result_overwriteAt,
      DecoderConfig.events_overwriteAt, visible_trace]
    cases (DecoderConfig.overwrite {} data).result with
    | ok config => simp only [visible_append]
    | error reason => rfl

theorem selectOrPlainAt_eq :
    selectOrPlainAt verbosity data =
      ((selectOrPlain data).1, visible verbosity (selectOrPlain data).2) := by
  simp only [selectOrPlain, selectOrPlainAt, selectAt_eq, visible_trace]
  obtain ⟨reason | mode, events⟩ := select data
  · simp only [visible_append]
  · rfl

end DecoderMode

end AacConfig
