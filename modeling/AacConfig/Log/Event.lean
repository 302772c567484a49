import AacConfig.DecoderConfig
import AacConfig.Log.Severity
import AacConfig.Text.Hex

/-!
# Events

What is worth a log record. An event carries the values that its record shows,
so a list of events tells the same story at every verbosity; wording, severity
and the module that logs it are functions of the event, and the records of a
verbosity are a selection from the list (`visible`).
-/

namespace AacConfig.Log

/-- A step of the program that is logged. -/
inductive Event
  /-- An object type was read. -/
  | objectType (code : ObjectType)
  /-- A sampling frequency was read. -/
  | frequency (value : SamplingFrequency)
  /-- The channel configuration was read. -/
  | channels (number count : Nat)
  /-- The extensions were signalled in front of the core coder. -/
  | explicitExtension (sbrPresent psPresent : Bool) (core : ObjectType)
  /-- The flags of the core coder were read. -/
  | coreFlags (frameLengthFlag dependsOnCoreCoder : Bool) (coreCoderDelay : Nat)
      (extensionFlag : Bool)
  /-- The bits behind the core coder do not start an extension. -/
  | foreignSyncWord (word : Nat)
  /-- The extensions were signalled behind the core coder. -/
  | syncExtension (code : ObjectType) (sbrPresent psPresent : Bool)
  /-- The rest of the configuration was left undecoded from a bit on. -/
  | tailLeft (position : Nat) (feature : Unsupported)
  /-- Spectral band replication selects the decoder mode. -/
  | sbrDetected
  /-- Parametric stereo selects the decoder mode. -/
  | psDetected
  /-- A configuration was refused and the plain decoder mode is taken. -/
  | refused (reason : DecodeError)
  /-- The input is read from standard input. -/
  | readingStandardInput
  /-- The input is read from a file. -/
  | readingFile (path : String)
  /-- A configuration is about to be reported. -/
  | analyzing (data : List UInt8)
  /-- A configuration is about to be wrapped in a descriptor. -/
  | wrapping (count : Nat)
  /-- A configuration too short to be decoded before playing was refused. -/
  | shortRefused (reason : DecodeError)
  /-- A configuration was refused and its report assumes the plain decoder mode. -/
  | refusedInReport (reason : DecodeError)
deriving Repr, DecidableEq

namespace Event

/-- The severity of an event's record. -/
def severity : Event → Severity
  | objectType _ | frequency _ | channels .. | explicitExtension .. | coreFlags ..
  | foreignSyncWord _ | syncExtension .. => .trace
  | tailLeft .. | readingStandardInput | readingFile _ => .debug
  | sbrDetected | psDetected | analyzing _ | wrapping _ => .info
  | refused _ | shortRefused _ | refusedInReport _ => .warn

/-- The path of the module that logs an event. -/
def target : Event → String
  | objectType _ => "mp4asc::structs::object_type"
  | frequency _ => "mp4asc::structs::sampling_frequency"
  | channels .. | explicitExtension .. | coreFlags .. | foreignSyncWord _ | syncExtension ..
  | tailLeft .. => "mp4asc::structs::audio_config"
  | sbrDetected | psDetected | refused _ => "mp4asc::process::format"
  | readingStandardInput | readingFile _ => "mp4ascd::cli"
  | analyzing _ | shortRefused _ | refusedInReport _ => "mp4ascd::cli::info"
  | wrapping _ => "mp4ascd::cli::esds"

/-- The wording of an event's record. -/
def message : Event → String
  | objectType code => s!"audioObjectType = {code}"
  | frequency value =>
      s!"samplingFrequencyIndex = {Text.markedHex 1 value.index}, frequency = {value.hertz}"
  | channels number count => s!"channelConfiguration = {number}, channel_count = {count}"
  | explicitExtension sbrPresent psPresent core =>
      s!"explicit extension: sbr = {sbrPresent}, ps = {psPresent}, core object type = {core}"
  | coreFlags frameLengthFlag dependsOnCoreCoder coreCoderDelay extensionFlag =>
      s!"GASpecificConfig: frameLengthFlag = {frameLengthFlag}, " ++
        s!"dependsOnCoreCoder = {dependsOnCoreCoder}, " ++
        s!"coreCoderDelay = {coreCoderDelay}, extensionFlag = {extensionFlag}"
  | foreignSyncWord word => s!"syncExtensionType {Text.markedHex 3 word} not recognised"
  | syncExtension code sbrPresent psPresent =>
      s!"sync extension: object type = {code}, sbr = {sbrPresent}, ps = {psPresent}"
  | tailLeft position feature =>
      s!"AudioSpecificConfig tail not decoded at bit {position}: {feature.message}"
  | sbrDetected => "HE-AAC SBR detected"
  | psDetected => "HE-AAC PS detected"
  | refused reason => s!"failed to parse audio decoder config ({reason.message})"
  | readingStandardInput => "Reading AudioSpecificConfig from stdin"
  | readingFile path => s!"Reading AudioSpecificConfig from {path}"
  | analyzing data =>
      s!"Analyzing AudioSpecificConfig: {data.length} bytes [{Hex.render data}]"
  | wrapping count => s!"Wrapping {count} bytes of decoder specific info"
  | shortRefused reason =>
      s!"short audio decoder config does not parse ({reason.message}), decoder uses plain AAC"
  | refusedInReport reason =>
      s!"failed to parse audio decoder config ({reason.message}), assuming plain AAC"

end Event

/-- The events whose records a verbosity lets through, in their order. -/
def visible (verbosity : Verbosity) (events : List Event) : List Event :=
  events.filter fun event => verbosity.admits event.severity

theorem admits_trace (severity : Severity) : Verbosity.trace.admits severity = true := by
  cases severity
  all_goals rfl

/-- The greatest verbosity lets everything through. -/
theorem visible_trace (events : List Event) : visible .trace events = events :=
  List.filter_eq_self.mpr fun event _ => admits_trace event.severity

@[simp] theorem visible_append (verbosity : Verbosity) (first second : List Event) :
    visible verbosity (first ++ second) = visible verbosity first ++ visible verbosity second :=
  List.filter_append first second

/-- What is let through of several events is let through of one after the other. -/
theorem visible_cons_cons (verbosity : Verbosity) (first second : Event) (rest : List Event) :
    visible verbosity (first :: second :: rest) =
      visible verbosity [first] ++ visible verbosity (second :: rest) :=
  visible_append verbosity [first] (second :: rest)

end AacConfig.Log
