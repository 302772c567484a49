import AacConfig.Report
import AacConfig.Text.Yaml

/-!
# Reports for programs

A report as a document of two levels. Every value keeps its own kind, and the
name of an object type and the reason of a refusal stand in it only if there
is one.
-/

namespace AacConfig.Report

open Yaml

/-- The fields on the extensions. -/
def extensionFields (extension : Extension) : List Field :=
  [("sbrPresent", .flag extension.sbrPresent),
    ("psPresent", .flag extension.psPresent),
    ("objectType", .number extension.objectType),
    ("samplingFrequencyIndex", .number extension.frequency.index),
    ("samplingFrequency", .number extension.frequency.hertz)]

/-- The fields on the decoder mode. -/
def modeFields (report : Report) : List Field :=
  [("profile", .text report.profile.name),
    ("packetsPerConversion", .number report.packetsPerConversion),
    ("outputSamplingFrequency", .number report.config.outputHertz)]

/-- The fields on the core configuration behind the object type. -/
def coreFields (config : DecoderConfig) : List Field :=
  [("samplingFrequencyIndex", .number config.frequency.index),
    ("samplingFrequency", .number config.frequency.hertz),
    ("channelConfiguration", .number config.layout.number),
    ("channelLayout", .text config.layout.name),
    ("channelCount", .number config.channelCount),
    ("frameLengthFlag", .flag config.frameLengthFlag),
    ("dependsOnCoreCoder", .flag config.dependsOnCoreCoder),
    ("coreCoderDelay", .number config.coreCoderDelay)]

/-- A field that stands in a document only if it has a text. -/
def optionalField (key : String) (value : Option String) : List Entry :=
  match value with
  | none => []
  | some content => [.scalar (key, .text content)]

/-- The document of a report. -/
def document (report : Report) : List Entry :=
  .scalar ("objectType", .number report.config.objectType) ::
    optionalField "objectTypeName" report.config.objectType.name? ++
    (coreFields report.config).map .scalar ++
    [.group "extension" (extensionFields report.config.extension),
      .group "decoder" (modeFields report)] ++
    optionalField "error" (report.refusal.map DecodeError.message)

/-- A report as the text of its document. -/
def renderYaml (report : Report) : String :=
  Yaml.render report.document

end AacConfig.Report
