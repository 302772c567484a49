import AacConfig.DecoderMode

/-!
# Reports on a configuration

A report shows what a configuration says, as far as it could be decoded, and
the decoder mode that is selected by it. Unlike the selection of a mode, a
report decodes configurations of every length; one of at most two bytes does
not select a mode, so a refusal of it is shown and nothing else. Any other
refusal is fatal if the caller is strict about it.
-/

namespace AacConfig

open Log

/-- What is shown of a configuration. -/
structure Report where
  /-- The configuration as far as it was decoded. -/
  config : DecoderConfig
  /-- The profile of the selected mode. -/
  profile : Profile
  /-- The frames of a conversion in the selected mode. -/
  packetsPerConversion : Nat
  /-- The reason of a refusal. -/
  refusal : Option DecodeError
deriving Repr, DecidableEq

namespace Report

/-- The report of a configuration under a mode. -/
def ofMode (config : DecoderConfig) (mode : DecoderMode) (refusal : Option DecodeError) :
    Report where
  config
  profile := mode.profile
  packetsPerConversion := mode.packetsPerConversion
  refusal

/-- The report of a byte string, and the events on the way. A refusal is fatal only if
the caller is strict and the mode would have been selected by the configuration. -/
def analyze (strict : Bool) (data : List UInt8) : Except DecodeError Report × List Event :=
  let attempt := DecoderConfig.overwrite {} data
  let config := attempt.config
  let short := data.length ≤ DecoderMode.headerBytes
  match attempt.refusal with
  | none =>
      if short then (.ok (ofMode config {} none), attempt.events)
      else
        (.ok (ofMode config (DecoderMode.ofConfig config) none),
          attempt.events ++ DecoderMode.selectionEvents config)
  | some reason =>
      if short then
        (.ok (ofMode config {} (some reason)), attempt.events ++ [.shortRefused reason])
      else if strict then (.error reason, attempt.events)
      else
        (.ok (ofMode config {} (some reason)), attempt.events ++ [.refusedInReport reason])

end Report

end AacConfig
