import AacConfig.Decode

/-!
# Decoder modes

A decoder that tells plain AAC, AAC with spectral band replication and AAC with
both extensions apart has to be set up for one of them before the first
packet. The flags of the configuration decide. A configuration of at most two
bytes has no room for an extension and is not even decoded, and whatever is
refused is played as plain AAC.
-/

namespace AacConfig

open Log

/-- The family of coding tools that a decoder is set up for. -/
inductive Profile
  /-- The core coder alone. -/
  | aac
  /-- The core coder with spectral band replication. -/
  | heAac
  /-- The core coder with spectral band replication and parametric stereo. -/
  | heAacV2
deriving Repr, DecidableEq, Inhabited

/-- The usual name of a profile. -/
def Profile.name : Profile → String
  | aac => "AAC"
  | heAac => "HE-AAC"
  | heAacV2 => "HE-AAC v2"

/-- How a decoder is set up. -/
structure DecoderMode where
  /-- The coding tools. -/
  profile : Profile := .aac
  /-- The number of frames asked for at a time. -/
  packetsPerConversion : Nat := 1024
  /-- The configuration, if one was decoded. -/
  config : Option DecoderConfig := none
deriving Repr, DecidableEq, Inhabited

namespace DecoderMode

/-- The greatest number of bytes that only hold the core coder's header. -/
def headerBytes : Nat := 2

/-- The mode that a configuration selects. Parametric stereo outweighs spectral band
replication, and either doubles the frames of a conversion. -/
def ofConfig (config : DecoderConfig) : DecoderMode where
  profile :=
    if config.extension.psPresent then .heAacV2
    else if config.extension.sbrPresent then .heAac
    else .aac
  packetsPerConversion :=
    if config.extension.sbrPresent || config.extension.psPresent then 2048 else 1024
  config := some config

/-- The events of selecting a mode by a configuration. -/
def selectionEvents (config : DecoderConfig) : List Event :=
  (if config.extension.sbrPresent then [.sbrDetected] else []) ++
    (if config.extension.psPresent then [.psDetected] else [])

/-- The mode for the configuration bytes of a stream, and of the events on the way those that a
verbosity lets through. -/
def selectAt (verbosity : Verbosity) (data : List UInt8) :
    Except DecodeError DecoderMode × List Event :=
  if data.length ≤ headerBytes then (.ok {}, [])
  else
    let attempt := DecoderConfig.overwriteAt verbosity {} data
    match attempt.result with
    | .ok config =>
        (.ok (ofConfig config), attempt.events ++ visible verbosity (selectionEvents config))
    | .error reason => (.error reason, attempt.events)

/-- The mode for the configuration bytes of a stream, plain AAC where they are refused, and of the
events on the way those that a verbosity lets through. -/
def selectOrPlainAt (verbosity : Verbosity) (data : List UInt8) : DecoderMode × List Event :=
  match selectAt verbosity data with
  | (.ok mode, events) => (mode, events)
  | (.error reason, events) => ({}, events ++ visible verbosity [.refused reason])

/-- The mode for the configuration bytes of a stream, and the events on the way. -/
def select (data : List UInt8) : Except DecodeError DecoderMode × List Event :=
  selectAt .trace data

/-- The mode for the configuration bytes of a stream, plain AAC where they are refused,
and the events on the way. -/
def selectOrPlain (data : List UInt8) : DecoderMode × List Event :=
  selectOrPlainAt .trace data

/-- The mode for the configuration bytes of a stream. -/
def ofBytes (data : List UInt8) : Except DecodeError DecoderMode :=
  (select data).1

/-- The mode for the configuration bytes of a stream, plain AAC where they are refused. -/
def ofBytesOrPlain (data : List UInt8) : DecoderMode :=
  (selectOrPlain data).1

end DecoderMode

end AacConfig
