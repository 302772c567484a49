import AacConfig.Report

/-!
# Reports for people

A report as aligned text: a title, the core configuration, the extensions and
the decoder mode, and at the end the reason of a refusal. Lines that would
only say zero are left out.
-/

namespace AacConfig.Report

/-- The name of an object type, also of one without a meaning. -/
def typeName (code : ObjectType) : String :=
  code.name?.getD "unknown"

/-- The text of a sampling frequency. -/
def rateText (frequency : SamplingFrequency) : String :=
  s!"{frequency.hertz} Hz (index {Text.markedHex 1 frequency.index})"

/-- The lines on the core configuration. -/
def coreLines (config : DecoderConfig) : List String :=
  ["Core Configuration",
    s!"  Object type               {config.objectType} ({typeName config.objectType})",
    s!"  Sampling rate             {rateText config.frequency}",
    s!"  Channels                  {config.channelCount} " ++
      s!"({config.layout.name}, configuration {config.layout.number})",
    s!"  Frame length flag         {config.frameLengthFlag}",
    s!"  Depends on core coder     {config.dependsOnCoreCoder}"] ++
  (if config.dependsOnCoreCoder then
    [s!"  Core coder delay          {config.coreCoderDelay}"]
  else [])

/-- The lines on the extensions. -/
def extensionLines (extension : Extension) : List String :=
  ["Extension",
    s!"  SBR present               {extension.sbrPresent}",
    s!"  PS present                {extension.psPresent}"] ++
  (if extension.objectType = 0 then []
  else
    [s!"  Object type               {extension.objectType} ({typeName extension.objectType})"]) ++
  (if extension.frequency.hertz = 0 then []
  else [s!"  Sampling rate             {rateText extension.frequency}"])

/-- The lines on the decoder mode. -/
def modeLines (report : Report) : List String :=
  ["Decoder",
    s!"  Profile                   {report.profile.name}",
    s!"  Packets per conversion    {report.packetsPerConversion}",
    s!"  Output sampling rate      {report.config.outputHertz} Hz"]

/-- The lines on a refusal. -/
def refusalLines : Option DecodeError → List String
  | none => []
  | some reason => ["", s!"Parse error                 {reason.message}"]

/-- The lines of a report. -/
def plainLines (report : Report) : List String :=
  ["", "AudioSpecificConfig", "===================", ""] ++
    coreLines report.config ++ [""] ++
    extensionLines report.config.extension ++ [""] ++
    modeLines report ++
    refusalLines report.refusal

/-- A report as text, every line ended. -/
def renderPlain (report : Report) : String :=
  String.join (report.plainLines.map fun line => line ++ "\n")

end AacConfig.Report
