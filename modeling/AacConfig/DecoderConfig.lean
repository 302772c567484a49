import AacConfig.ChannelLayout
import AacConfig.ObjectType
import AacConfig.SamplingFrequency

/-!
# Decoder configurations

The parameters that a decoder needs before the first packet: the core coder
and its sampling frequency, the channels, and the extensions that rebuild the
upper spectrum or the stereo image from side information.
-/

namespace AacConfig

/-- The signalled extensions of a core coder. -/
structure Extension where
  /-- Whether spectral band replication is used. -/
  sbrPresent : Bool := false
  /-- Whether parametric stereo is used. -/
  psPresent : Bool := false
  /-- The object type that signalled the extensions. -/
  objectType : ObjectType := 0
  /-- The frequency behind spectral band replication. -/
  frequency : SamplingFrequency := {}
deriving Repr, DecidableEq, Inhabited

/-- A decoder configuration. Whatever was not signalled is zero or false. -/
structure DecoderConfig where
  /-- The object type of the core coder. -/
  objectType : ObjectType := 0
  /-- The sampling frequency of the core coder. -/
  frequency : SamplingFrequency := {}
  /-- The loudspeaker layout. -/
  layout : ChannelLayout := .programConfigElement
  /-- The number of channels that the layout tells. -/
  channelCount : Nat := 0
  /-- Whether frames are of the shorter length. -/
  frameLengthFlag : Bool := false
  /-- Whether another core coder is decoded first. -/
  dependsOnCoreCoder : Bool := false
  /-- The delay of that core coder in samples. -/
  coreCoderDelay : Nat := 0
  /-- The signalled extensions. -/
  extension : Extension := {}
deriving Repr, DecidableEq, Inhabited

/-- The frequency that leaves the decoder: that of the extension if spectral band
replication is used and has one, and otherwise that of the core coder. -/
def DecoderConfig.outputHertz (config : DecoderConfig) : Nat :=
  if config.extension.sbrPresent && config.extension.frequency.hertz != 0 then
    config.extension.frequency.hertz
  else
    config.frequency.hertz

end AacConfig
