import AacConfig.Decode
import Mathlib.Algebra.Group.Nat.Defs

/-!
# Written configurations

The bits of a configuration, described as the format lays them out and without
a reader: a header, perhaps extensions in front of the core coder, the flags
of the core coder, and behind them extensions or anything that is none. The
relation `Written bits config` says that the bits spell a configuration of
which `config` is the record.
-/

namespace AacConfig.Stream

/-- The header of a configuration. -/
structure Header where
  /-- The object type, of the core coder or of an extension in front of it. -/
  objectType : ObjectType
  /-- The sampling frequency of the core coder. -/
  frequency : SamplingFrequency
  /-- The channel configuration number. -/
  channels : Nat
deriving Repr, DecidableEq

/-- Every field of a header has a code. -/
structure Header.Codable (header : Header) : Prop where
  objectType : header.objectType.IsCodable
  frequency : header.frequency.IsSignalled
  channels : header.channels < 16

/-- The bits of a header. -/
def Header.bits (header : Header) : List Bool :=
  header.objectType.bits ++ header.frequency.bits ++ Bits.ofNat 4 header.channels

/-- The flags of a core coder, of which the delay is given only where another core coder is
decoded first. -/
structure Flags where
  /-- Whether frames are of the shorter length. -/
  frameLength : Bool
  /-- The delay of a core coder that is decoded first. -/
  delay : Option Nat
  /-- Whether further flags follow. -/
  extended : Bool
deriving Repr, DecidableEq

/-- The delay of some flags has a code. -/
def Flags.Codable (flags : Flags) : Prop :=
  ∀ delay ∈ flags.delay, delay < 2 ^ 14

/-- The bits of the flags of a core coder. -/
def Flags.bits (flags : Flags) : List Bool :=
  flags.frameLength ::
    (match flags.delay with
      | none => [false]
      | some delay => true :: Bits.ofNat 14 delay) ++ [flags.extended]

/-- The record of a header and the flags of a core coder of a given type. -/
def Header.record (header : Header) (core : ObjectType) (flags : Flags)
    (extension : Extension) : DecoderConfig where
  objectType := core
  frequency := header.frequency
  layout := .ofNumber header.channels
  channelCount := (ChannelLayout.ofNumber header.channels).channelCount
  frameLengthFlag := flags.frameLength
  dependsOnCoreCoder := flags.delay.isSome
  coreCoderDelay := flags.delay.getD 0
  extension

/-- The core coders that are decoded. -/
def IsCore (code : ObjectType) : Prop :=
  code = ObjectType.aacMain ∨ code = ObjectType.aacLowComplexity

/-- How the flags of a core coder end, and whether the rest is left undecoded: the layout is
described inside the stream, or further flags follow that announce more bits. -/
inductive Close : (channels : Nat) → (extended : Bool) → (bits : List Bool) →
    (undecoded : Bool) → Prop
  /-- The layout is described inside the stream. -/
  | elsewhere (extended : Bool) : Close 0 extended [] true
  /-- No further flags follow. -/
  | plain {channels : Nat} (known : channels ≠ 0) : Close channels false [] false
  /-- The further flag follows. -/
  | extended {channels : Nat} (known : channels ≠ 0) (payload : Bool) :
      Close channels true [payload] payload

/-- The word in front of extensions behind the core coder, and their object type. -/
def syncBits (code : ObjectType) : List Bool :=
  Bits.ofNat 11 Production.sbrSyncWord ++ code.bits

/-- Whether bits start with parametric stereo. -/
def StartsPs (bits : List Bool) : Prop :=
  Production.psExtensionWidth ≤ bits.length ∧
    bits.take 11 = Bits.ofNat 11 Production.psSyncWord

/-- What stands behind the flags of a core coder, and the extensions that it signals. The
word and the shortest object type already make the bits enough to be looked at. -/
inductive Tail : List Bool → Extension → Prop
  /-- Too few bits to be looked at. -/
  | short {bits : List Bool} (few : bits.length < Production.syncExtensionWidth) : Tail bits {}
  /-- A word that does not start extensions. -/
  | foreign {bits : List Bool} (many : Production.syncExtensionWidth ≤ bits.length)
      (other : bits.take 11 ≠ Bits.ofNat 11 Production.sbrSyncWord) : Tail bits {}
  /-- Extensions of a type that has no fields here. -/
  | unknown {code : ObjectType} {rest : List Bool} (codable : code.IsCodable)
      (notSbr : code ≠ ObjectType.spectralBandReplication)
      (notBitSliced : code ≠ ObjectType.resilientBitSliced) :
      Tail (syncBits code ++ rest) { objectType := code }
  /-- Spectral band replication that is not used. -/
  | absent {rest : List Bool} :
      Tail (syncBits ObjectType.spectralBandReplication ++ false :: rest)
        { objectType := ObjectType.spectralBandReplication }
  /-- Spectral band replication alone. -/
  | replication {frequency : SamplingFrequency} {rest : List Bool}
      (signalled : frequency.IsSignalled) (alone : ¬ StartsPs rest) :
      Tail
        (syncBits ObjectType.spectralBandReplication ++ true :: frequency.bits ++ rest)
        { objectType := ObjectType.spectralBandReplication, sbrPresent := true, frequency }
  /-- Spectral band replication and the flag of parametric stereo. -/
  | stereo {frequency : SamplingFrequency} {rest : List Bool} (psPresent : Bool)
      (signalled : frequency.IsSignalled) :
      Tail
        (syncBits ObjectType.spectralBandReplication ++ true :: frequency.bits ++
          Bits.ofNat 11 Production.psSyncWord ++ psPresent :: rest)
        { objectType := ObjectType.spectralBandReplication, sbrPresent := true, psPresent,
          frequency }
  /-- Bit sliced coding without replication, and four bits on its channels. -/
  | slicedAlone {channels rest : List Bool} (four : channels.length = 4) :
      Tail (syncBits ObjectType.resilientBitSliced ++ false :: channels ++ rest)
        { objectType := ObjectType.resilientBitSliced }
  /-- Bit sliced coding with replication, and four bits on its channels. -/
  | sliced {frequency : SamplingFrequency} {channels rest : List Bool}
      (signalled : frequency.IsSignalled) (four : channels.length = 4) :
      Tail
        (syncBits ObjectType.resilientBitSliced ++ true :: frequency.bits ++ channels ++ rest)
        { objectType := ObjectType.resilientBitSliced, sbrPresent := true, frequency }

/-- The extensions that a header with an extension's type announces. -/
def announced (code : ObjectType) (frequency : SamplingFrequency) : Extension where
  sbrPresent := true
  psPresent := code == ObjectType.parametricStereo
  objectType := ObjectType.spectralBandReplication
  frequency

/-- The bits of a configuration and its record. -/
inductive Written : List Bool → DecoderConfig → Prop
  /-- The rest behind the flags of the core coder is left undecoded. -/
  | undecoded {header : Header} {flags : Flags} {close rest : List Bool}
      (codable : header.Codable) (core : IsCore header.objectType) (delay : flags.Codable)
      (closing : Close header.channels flags.extended close true) :
      Written (header.bits ++ flags.bits ++ close ++ rest)
        (header.record header.objectType flags {})
  /-- The core coder is named by the header, and extensions may stand behind it. -/
  | plain {header : Header} {flags : Flags} {close tail : List Bool} {extension : Extension}
      (codable : header.Codable) (core : IsCore header.objectType) (delay : flags.Codable)
      (closing : Close header.channels flags.extended close false)
      (behind : Tail tail extension) :
      Written (header.bits ++ flags.bits ++ close ++ tail)
        (header.record header.objectType flags extension)
  /-- The header names an extension; its frequency and the core coder follow. -/
  | explicit {header : Header} {frequency : SamplingFrequency} {core : ObjectType}
      {flags : Flags} {close rest : List Bool} {ignored : Bool} (codable : header.Codable)
      (extended : header.objectType = ObjectType.spectralBandReplication ∨
        header.objectType = ObjectType.parametricStereo)
      (signalled : frequency.IsSignalled) (isCore : IsCore core) (delay : flags.Codable)
      (closing : Close header.channels flags.extended close ignored) :
      Written
        (header.bits ++ frequency.bits ++ core.bits ++ flags.bits ++ close ++ rest)
        (header.record core flags (announced header.objectType frequency))

end AacConfig.Stream
