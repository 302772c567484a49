import AacConfig.Report.Document

/-!
# The schema of a report

Which keys the document of a report has, in which order, of which kind their
values are (`Report.schema`), and what of the report they show (`Report.views`).
Two of them stand in it only if there is something to say: the name of an object
type that has one, and the reason of a refusal.
-/

namespace AacConfig

namespace Yaml

/-- The kinds of scalars. -/
inductive Kind
  | number
  | flag
  | text
deriving Repr, DecidableEq

/-- The kind of a scalar. -/
def Scalar.kind : Scalar → Kind
  | number _ => .number
  | flag _ => .flag
  | text _ => .text

/-- The keys of an entry behind those of the groups that they stand in, with the kinds of their
values. A group has no kind. -/
def Entry.schema : Entry → List (List String × Option Kind)
  | scalar field => [([field.1], some field.2.kind)]
  | group key fields =>
      ([key], none) :: fields.map fun field => ([key, field.1], some field.2.kind)

/-- The values of an entry, each behind its keys from the outside in. -/
def Entry.leaves : Entry → List (List String × Scalar)
  | scalar field => [([field.1], field.2)]
  | group key fields => fields.map fun field => ([key, field.1], field.2)

end Yaml

open Yaml

/-- The keys and kinds of the document of a report, in their order. -/
def Report.schema (named refused : Bool) : List (List String × Option Kind) :=
  (["objectType"], some .number) ::
    (if named then [(["objectTypeName"], some .text)] else []) ++
    [(["samplingFrequencyIndex"], some .number),
      (["samplingFrequency"], some .number),
      (["channelConfiguration"], some .number),
      (["channelLayout"], some .text),
      (["channelCount"], some .number),
      (["frameLengthFlag"], some .flag),
      (["dependsOnCoreCoder"], some .flag),
      (["coreCoderDelay"], some .number),
      (["extension"], none),
      (["extension", "sbrPresent"], some .flag),
      (["extension", "psPresent"], some .flag),
      (["extension", "objectType"], some .number),
      (["extension", "samplingFrequencyIndex"], some .number),
      (["extension", "samplingFrequency"], some .number),
      (["decoder"], none),
      (["decoder", "profile"], some .text),
      (["decoder", "packetsPerConversion"], some .number),
      (["decoder", "outputSamplingFrequency"], some .number)] ++
    (if refused then [(["error"], some .text)] else [])

/-- What of a report stands behind which keys, if there is something to show. -/
def Report.views : List (List String × (Report → Option Scalar)) :=
  [(["objectType"], fun report => some (.number report.config.objectType)),
    (["objectTypeName"], fun report => report.config.objectType.name?.map .text),
    (["samplingFrequencyIndex"], fun report => some (.number report.config.frequency.index)),
    (["samplingFrequency"], fun report => some (.number report.config.frequency.hertz)),
    (["channelConfiguration"], fun report => some (.number report.config.layout.number)),
    (["channelLayout"], fun report => some (.text report.config.layout.name)),
    (["channelCount"], fun report => some (.number report.config.channelCount)),
    (["frameLengthFlag"], fun report => some (.flag report.config.frameLengthFlag)),
    (["dependsOnCoreCoder"], fun report => some (.flag report.config.dependsOnCoreCoder)),
    (["coreCoderDelay"], fun report => some (.number report.config.coreCoderDelay)),
    (["extension", "sbrPresent"],
      fun report => some (.flag report.config.extension.sbrPresent)),
    (["extension", "psPresent"], fun report => some (.flag report.config.extension.psPresent)),
    (["extension", "objectType"],
      fun report => some (.number report.config.extension.objectType)),
    (["extension", "samplingFrequencyIndex"],
      fun report => some (.number report.config.extension.frequency.index)),
    (["extension", "samplingFrequency"],
      fun report => some (.number report.config.extension.frequency.hertz)),
    (["decoder", "profile"], fun report => some (.text report.profile.name)),
    (["decoder", "packetsPerConversion"],
      fun report => some (.number report.packetsPerConversion)),
    (["decoder", "outputSamplingFrequency"],
      fun report => some (.number report.config.outputHertz)),
    (["error"], fun report => report.refusal.map fun reason => .text reason.message)]

end AacConfig
