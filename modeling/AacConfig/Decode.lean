import AacConfig.Log.Event

/-!
# Decoding a configuration

A configuration is a sequence of productions: a header, the extensions if the
header announces them, the flags of the core coder, and extensions behind the
core coder, which older decoders pass over. Each production reads bits, fills
in the record and logs what it read; when one is refused, everything before
the refusal stays. A run is given the verbosity of its log, and the events that
it leaves behind are those that the log took.

Only the core coders AAC Main and AAC LC are decoded. A feature that is not
decoded ends the run, but once the header is known this is no failure: the
rest is left undecoded and the record stands as it is (`absorbing`).
-/

namespace AacConfig

open Log

/-- What a run of the productions works on. -/
structure DecodeState where
  /-- The bits that are left. -/
  reader : BitReader
  /-- The record as far as it is filled in. -/
  config : DecoderConfig
  /-- The logged events so far, in their order. -/
  events : List Event
  /-- How much is logged. -/
  verbosity : Verbosity := .trace
deriving Repr, DecidableEq

namespace DecodeState

/-- The state in front of a byte string that is decoded over a record. -/
def start (prior : DecoderConfig) (data : List UInt8) : DecodeState where
  reader := .ofBytes data
  config := prior
  events := []

/-- The state with its reader moved by `count` bits. -/
def advance (state : DecodeState) (count : Nat) : DecodeState :=
  { state with reader := state.reader.advance count }

/-- The state with an event more, if the log takes it. -/
def log (state : DecodeState) (event : Event) : DecodeState :=
  { state with events := state.events ++ visible state.verbosity [event] }

/-- The state with its record changed. -/
def amend (state : DecodeState) (change : DecoderConfig → DecoderConfig) : DecodeState :=
  { state with config := change state.config }

/-- The state with the extensions of its record changed. -/
def extend (state : DecodeState) (change : Extension → Extension) : DecodeState :=
  state.amend fun config => { config with extension := change config.extension }

end DecodeState

/-- A production. A refusal keeps the state that was reached. -/
abbrev Production := EStateM DecodeError DecodeState

namespace Production

/-! ## Steps -/

/-- A read as a step of a production. -/
def ofReading {α : Type} (reading : Reading α) : Production α := fun state =>
  match reading state.reader with
  | .ok value reader => .ok value { state with reader }
  | .error reason reader => .error reason { state with reader }

/-- Logs an event, if the log takes it. -/
def record (event : Event) : Production Unit :=
  modify fun state => state.log event

/-- Changes the record. -/
def update (change : DecoderConfig → DecoderConfig) : Production Unit :=
  modify fun state => state.amend change

/-- Changes the extensions of the record. -/
def updateExtension (change : Extension → Extension) : Production Unit :=
  modify fun state => state.extend change

/-- The record as it stands. -/
def config : Production DecoderConfig :=
  return (← get).config

/-- The number of bits left. -/
def available : Production Nat :=
  return (← get).reader.available

/-- Reads and logs an object type. -/
def objectType : Production ObjectType := do
  let code ← ofReading ObjectType.read
  record (.objectType code)
  return code

/-- Reads and logs a sampling frequency. -/
def frequency : Production SamplingFrequency := do
  let value ← ofReading SamplingFrequency.read
  record (.frequency value)
  return value

/-- Reads a flag. -/
def flag : Production Bool :=
  ofReading BitReader.readBit

/-- Reads a number of `width` bits. -/
def number (width : Nat) : Production Nat :=
  ofReading (BitReader.readField width width)

/-- Moves over `width` bits. -/
def skip (width : Nat) : Production Unit :=
  ofReading (BitReader.skip width)

/-! ## Productions -/

/-- The header: object type, sampling frequency and channels. -/
def header : Production Unit := do
  let code ← objectType
  update fun config => { config with objectType := code }
  let core ← frequency
  update fun config => { config with frequency := core }
  let layout := ChannelLayout.ofNumber (← number 4)
  update fun config => { config with layout, channelCount := layout.channelCount }
  record (.channels layout.number layout.channelCount)

/-- The frequency and the core coder behind a header that announces extensions. -/
def explicitFields : Production Unit := do
  let doubled ← frequency
  updateExtension fun extension => { extension with frequency := doubled }
  let core ← objectType
  update fun config => { config with objectType := core }
  if core = ObjectType.resilientBitSliced then
    skip 4
  let extension := (← config).extension
  record (.explicitExtension extension.sbrPresent extension.psPresent core)

/-- Extensions in front of the core coder: the header named an extension, and its
frequency and the core coder's object type follow. -/
def explicitExtension : Production Unit := do
  let announced := (← config).objectType
  updateExtension fun extension =>
    { extension with
      objectType := ObjectType.spectralBandReplication
      sbrPresent := true
      psPresent := announced == ObjectType.parametricStereo }
  explicitFields

/-- Extensions in front of the core coder, if the header announces any. -/
def frontExtension : Production Unit := do
  let announced := (← config).objectType
  if announced = ObjectType.spectralBandReplication ∨
      announced = ObjectType.parametricStereo then
    explicitExtension

/-- What stands in front of the core coder: the header, and perhaps extensions. -/
def preamble : Production Unit := do
  update fun _ => {}
  header
  frontExtension

/-- Whether the layer number of a scalable coder stands behind its flags. -/
def hasLayerNumber (code : ObjectType) : Bool :=
  code == ObjectType.aacScalable || code == ObjectType.resilientScalable

/-- Whether an extended coder has three flags for the resilience of its data. -/
def hasResilienceFlags (code : ObjectType) : Bool :=
  code == ObjectType.resilientLowComplexity || code == ObjectType.resilientScalable ||
    code == ObjectType.resilientLowDelay

/-- The delay of a dependent core coder. -/
def delay (dependent : Bool) : Production Nat :=
  if dependent then number 14 else pure 0

/-- The leading flags from the delay on. -/
def delayFlags (frameLengthFlag dependsOnCoreCoder : Bool) : Production Bool := do
  let coreCoderDelay ← delay dependsOnCoreCoder
  update fun config => { config with coreCoderDelay }
  let extensionFlag ← flag
  record (.coreFlags frameLengthFlag dependsOnCoreCoder coreCoderDelay extensionFlag)
  return extensionFlag

/-- The leading flags from the one on the delay on. -/
def dependenceFlags (frameLengthFlag : Bool) : Production Bool := do
  let dependsOnCoreCoder ← flag
  update fun config => { config with dependsOnCoreCoder }
  delayFlags frameLengthFlag dependsOnCoreCoder

/-- The flags that every core coder has, of which the last announces further ones. -/
def leadingFlags : Production Bool := do
  let frameLengthFlag ← flag
  update fun config => { config with frameLengthFlag }
  dependenceFlags frameLengthFlag

/-- What follows the leading flags of a core coder. -/
def closingFlags (extensionFlag : Bool) : Production Unit := do
  let current ← config
  if current.layout = .programConfigElement then
    throw (.unsupported .programConfigElement)
  if hasLayerNumber current.objectType then
    skip 3
  if extensionFlag then
    if current.objectType = ObjectType.resilientBitSliced then
      skip 16
    if hasResilienceFlags current.objectType then
      skip 3
    if ← flag then
      throw (.unsupported .extensionFlagPayload)

/-- The flags of the core coder. -/
def coreFlags : Production Unit := do
  closingFlags (← leadingFlags)

/-- The word of eleven bits in front of a spectral band replication extension. -/
def sbrSyncWord : Nat := 0x2B7

/-- The word of eleven bits in front of a parametric stereo extension. -/
def psSyncWord : Nat := 0x548

/-- The number of bits from which on an extension behind the core coder is looked for. -/
def syncExtensionWidth : Nat := 16

/-- The number of bits from which on parametric stereo is looked for behind an extension. -/
def psExtensionWidth : Nat := 12

/-- The flag of spectral band replication and, if it is set, the frequency behind it. -/
def sbrFlag : Production Bool := do
  let sbrPresent ← flag
  updateExtension fun extension => { extension with sbrPresent }
  if sbrPresent then
    let doubled ← frequency
    updateExtension fun extension => { extension with frequency := doubled }
  return sbrPresent

/-- The word of parametric stereo, and its flag behind it. -/
def psWord : Production Unit := do
  if (← number 11) = psSyncWord then
    let psPresent ← flag
    updateExtension fun extension => { extension with psPresent }

/-- Parametric stereo behind spectral band replication, if enough bits are left and
its word comes next. -/
def psExtension : Production Unit := do
  if psExtensionWidth ≤ (← available) then
    psWord

/-- Spectral band replication behind its object type, and perhaps parametric stereo. -/
def replication : Production Unit := do
  if ← sbrFlag then
    psExtension

/-- Bit sliced coding behind its object type. -/
def bitSliced : Production Unit := do
  let _ ← sbrFlag
  skip 4

/-- The fields of extensions behind their object type. -/
def extensionFields (code : ObjectType) : Production Unit :=
  if code = ObjectType.spectralBandReplication then replication
  else if code = ObjectType.resilientBitSliced then bitSliced
  else pure ()

/-- Extensions whose object type is known. -/
def codedExtension (code : ObjectType) : Production Unit := do
  updateExtension fun extension => { extension with objectType := code }
  extensionFields code
  let extension := (← config).extension
  record (.syncExtension code extension.sbrPresent extension.psPresent)

/-- Extensions behind the word that starts them. -/
def recognisedExtension : Production Unit := do
  codedExtension (← objectType)

/-- The word behind the core coder, and extensions if it starts any. A word that does not is passed
over. -/
def extensionWord : Production Unit := do
  let word ← number 11
  if word ≠ sbrSyncWord then record (.foreignSyncWord word) else recognisedExtension

/-- Extensions behind the core coder, for which enough bits have to be left. -/
def syncExtension : Production Unit := do
  let reader := (← get).reader
  if reader.available < syncExtensionWidth then
    throw (.truncated syncExtensionWidth reader.position reader.available)
  else
    extensionWord

/-- What stands behind the flags of a decoded core coder: extensions, unless they came in front or
too few bits are left. -/
def trailing : Production Unit := do
  let current ← config
  if current.extension.objectType ≠ ObjectType.spectralBandReplication then
    if syncExtensionWidth ≤ (← available) then
      syncExtension

/-- What follows the header of a decoded core coder. -/
def body : Production Unit := do
  coreFlags
  trailing

/-- A production that ends, with a record of the fact, where a feature is not decoded. -/
def absorbing (production : Production Unit) : Production Unit := fun state =>
  match production state with
  | .error (.unsupported feature) reached =>
      record (.tailLeft reached.reader.position feature) reached
  | outcome => outcome

/-- A production for the core coders that are decoded. Any other is refused. -/
def ifCore (inner : Production Unit) : Production Unit := do
  let core := (← config).objectType
  if core = ObjectType.aacMain ∨ core = ObjectType.aacLowComplexity then
    inner
  else
    throw (.unsupported (.objectType core))

/-- The core coder behind a header. -/
def coreCoder : Production Unit :=
  ifCore (absorbing body)

/-- A whole configuration. -/
def whole : Production Unit := do
  preamble
  coreCoder

end Production

/-! ## Results of a run -/

/-- How a run ended: the state it reached and, if it was refused, the reason. -/
structure Attempt where
  /-- The state that was reached. -/
  state : DecodeState
  /-- The reason of a refusal. -/
  refusal : Option DecodeError
deriving Repr, DecidableEq

namespace Attempt

/-- The record as far as it was filled in. -/
def config (attempt : Attempt) : DecoderConfig :=
  attempt.state.config

/-- The logged events. -/
def events (attempt : Attempt) : List Event :=
  attempt.state.events

/-- The record of a run that was not refused. -/
def result (attempt : Attempt) : Except DecodeError DecoderConfig :=
  match attempt.refusal with
  | none => .ok attempt.config
  | some reason => .error reason

end Attempt

/-- Runs a production from a state. -/
def Production.attempt (production : Production Unit) (state : DecodeState) : Attempt :=
  match production state with
  | .ok _ reached => { state := reached, refusal := none }
  | .error reason reached => { state := reached, refusal := some reason }

namespace DecoderConfig

/-- Decodes a byte string over a record, of which nothing is kept, and logs as much as a verbosity
lets through. -/
def overwriteAt (verbosity : Verbosity) (prior : DecoderConfig) (data : List UInt8) : Attempt :=
  Production.whole.attempt { DecodeState.start prior data with verbosity }

/-- Decodes a byte string over a record, of which nothing is kept, and logs everything. -/
def overwrite (prior : DecoderConfig) (data : List UInt8) : Attempt :=
  overwriteAt .trace prior data

/-- Decodes a byte string. -/
def decode (data : List UInt8) : Except DecodeError DecoderConfig :=
  (overwrite {} data).result

end DecoderConfig

end AacConfig
