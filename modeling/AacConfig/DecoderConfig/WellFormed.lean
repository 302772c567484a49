import AacConfig.DecoderConfig
import Mathlib.Algebra.Group.Nat.Defs

/-!
# Records that decoding leaves behind

However far a configuration is decoded, the fields of its record fit together:
extensions imply the object type that signals them, frequencies are those of
their index, and a field is only filled in where its condition holds
(`WellFormed`). A record that was decoded to its end also names a core coder
and a frequency (`Complete`).
-/

namespace AacConfig

/-- A frequency that was signalled or never read. -/
def SamplingFrequency.IsPlausible (frequency : SamplingFrequency) : Prop :=
  frequency.IsSignalled ∨ frequency = {}

/-- Extensions whose parts fit together. -/
structure Extension.WellFormed (extension : Extension) : Prop where
  /-- Parametric stereo stands on spectral band replication. -/
  psPresent : extension.psPresent → extension.sbrPresent
  /-- Replication is signalled by one of two object types. -/
  signalledBy : extension.sbrPresent →
    extension.objectType = ObjectType.spectralBandReplication ∨
      extension.objectType = ObjectType.resilientBitSliced
  /-- Parametric stereo is signalled by one object type. -/
  stereoSignalledBy : extension.psPresent →
    extension.objectType = ObjectType.spectralBandReplication
  /-- The frequency is one that can be signalled, if there is one. -/
  frequency : extension.frequency.IsPlausible
  /-- Only replication has a frequency. -/
  ownFrequency : extension.frequency ≠ {} → extension.sbrPresent

/-- A record whose fields fit together. -/
structure DecoderConfig.WellFormed (config : DecoderConfig) : Prop where
  /-- The extensions fit together. -/
  extension : config.extension.WellFormed
  /-- The frequency is one that can be signalled, if there is one. -/
  frequency : config.frequency.IsPlausible
  /-- The layout is that of its number. -/
  layout : config.layout = .ofNumber config.layout.number
  /-- The number of the layout fits four bits. -/
  layoutNumber : config.layout.number < 16
  /-- The number of channels is that of the layout. -/
  channelCount : config.channelCount = config.layout.channelCount
  /-- The delay fits fourteen bits. -/
  delay : config.coreCoderDelay < 2 ^ 14
  /-- Only a dependent core coder has a delay. -/
  ownDelay : config.coreCoderDelay ≠ 0 → config.dependsOnCoreCoder
  /-- The object type has a code. -/
  objectType : config.objectType.IsCodable
  /-- Only the core coders that are decoded have flags. -/
  flags : config.frameLengthFlag ∨ config.dependsOnCoreCoder ∨ config.coreCoderDelay ≠ 0 →
    config.objectType = ObjectType.aacMain ∨ config.objectType = ObjectType.aacLowComplexity

/-- A record that was decoded to its end. -/
structure DecoderConfig.Complete (config : DecoderConfig) : Prop extends config.WellFormed where
  /-- The core coder is one that is decoded. -/
  core : config.objectType = ObjectType.aacMain ∨
    config.objectType = ObjectType.aacLowComplexity
  /-- The core coder has a frequency. -/
  signalled : config.frequency.IsSignalled
  /-- Replication has a frequency. -/
  replicated : config.extension.sbrPresent → config.extension.frequency.IsSignalled

end AacConfig
