import AacConfig.Text.Numeral

/-!
# Why a decoder configuration is refused

Three causes end the decoding of a configuration: the bits run out, a field
holds a value that the format reserves, or the bits ask for a feature that is
not decoded. `DecodeError.message` gives the one wording of each.
-/

namespace AacConfig

/-- Features of the format that are recognised and not decoded. -/
inductive Unsupported
  /-- The channel layout is described by an element inside the stream. -/
  | programConfigElement
  /-- Bits announced by the third extension flag follow. -/
  | extensionFlagPayload
  /-- The core coder is neither AAC Main nor AAC LC. -/
  | objectType (code : Nat)
deriving Repr, DecidableEq

/-- The reason of a refused configuration. -/
inductive DecodeError
  /-- A read of `needed` bits at bit `position` found `available` bits. -/
  | truncated (needed position available : Nat)
  /-- A sampling frequency index without a meaning. -/
  | reservedFrequencyIndex (index : Nat)
  /-- A feature that is not decoded. -/
  | unsupported (feature : Unsupported)
deriving Repr, DecidableEq

/-- The wording of an undecoded feature. -/
def Unsupported.message : Unsupported → String
  | programConfigElement =>
      "program_config_element() is required when channel_configuration is 0"
  | extensionFlagPayload => "extension_flag_3 payload"
  | objectType code => s!"audio object type {code}"

namespace DecodeError

/-- The wording of a refusal. -/
def message : DecodeError → String
  | truncated needed position available =>
      s!"Truncated input: {needed} bits needed at bit {position}, only {available} remain"
  | reservedFrequencyIndex index =>
      s!"Invalid format: sampling_frequency_index {Text.markedHex 1 index} is reserved"
  | unsupported feature => s!"Not supported: {feature.message}"

/-- Whether the bits ran out. -/
def isTruncated : DecodeError → Bool
  | truncated .. => true
  | _ => false

/-- Whether the bits ask for a feature that is not decoded. -/
def isUnsupported : DecodeError → Bool
  | unsupported _ => true
  | _ => false

end DecodeError

end AacConfig
