import AacConfig.Command.Input
import AacConfig.Report.Document
import AacConfig.Report.Plain

/-!
# Runs

A run reads its configuration, carries out the action, and answers with a text
or a failure, never with both. Its events do not depend on how much is logged;
only the answer to the caller selects from them. A run that is asked about the
program itself does nothing but tell.
-/

namespace AacConfig.Command

open Log

/-- A report in a format. -/
def ReportFormat.render (format : ReportFormat) (report : Report) : String :=
  match format with
  | plain => report.renderPlain
  | yaml => report.renderYaml

/-- Reports on a configuration. -/
def info (format : ReportFormat) (strict : Bool) (data : List UInt8) : Step String := do
  log [.analyzing data]
  let (outcome, events) := Report.analyze strict data
  log events
  match outcome with
  | .ok report => return format.render report
  | .error reason => throw (.refused reason)

/-- Wraps a configuration in a descriptor. -/
def esds (data : List UInt8) : Step String := do
  log [.wrapping data.length]
  match Descriptor.build data with
  | .ok descriptor => return Hex.render descriptor ++ "\n"
  | .error reason => throw (.tooLong reason)

/-- Carries out what the settings ask for. -/
def Settings.perform (settings : Settings) (surroundings : Surroundings) : Step String := do
  let source ← settings.source.source
  let data ← source.read surroundings
  match settings.action with
  | .info => info settings.reportFormat settings.strict data
  | .esds => esds data

/-- How an action ended. -/
structure Outcome where
  /-- The text for standard output, or the failure. -/
  result : Except Failure String
  /-- The events of the run, whatever is written of them. -/
  events : List Event

/-- The outcome of what the settings ask for. -/
def Settings.outcome (settings : Settings) (surroundings : Surroundings) : Outcome :=
  match settings.perform surroundings [] with
  | .ok text events => { result := .ok text, events }
  | .error reason events => { result := .error reason, events }

/-- What a caller sees of a run. -/
inductive Response
  /-- The arguments are refused. -/
  | usageError
  /-- The run told about the program on standard output. -/
  | told (notice : Notice)
  /-- The run ended with a text, written records and perhaps a failure. -/
  | completed (output : String) (records : List String) (failure : Option Failure)
deriving Repr, DecidableEq

/-- The exit code of a run. -/
def Response.exitCode : Response → Nat
  | usageError => 2
  | completed _ _ (some _) => 1
  | told _ | completed _ _ none => 0

/-- The records that are written of some events. -/
def Settings.records (settings : Settings) (environment : Environment) (events : List Event) :
    List String :=
  (environment.visible settings.verbosity events).map (settings.lineFormat.record environment)

/-- What a caller sees of an outcome. -/
def Outcome.response (outcome : Outcome) (settings : Settings) (environment : Environment) :
    Response :=
  match outcome.result with
  | .ok text => .completed text (settings.records environment outcome.events) none
  | .error failure =>
      .completed "" (settings.records environment outcome.events) (some failure)

/-- A whole run: the arguments, what is around it, and what its log depends on besides. -/
def respond (arguments : List String) (surroundings : Surroundings) (environment : Environment) :
    Response :=
  match Invocation.ofArguments arguments with
  | .refused => .usageError
  | .told notice => .told notice
  | .run settings => (settings.outcome surroundings).response settings environment

end AacConfig.Command
