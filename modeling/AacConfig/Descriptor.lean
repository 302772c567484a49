/-!
# Elementary stream descriptors

Some decoders take their configuration inside an elementary stream descriptor.
A descriptor is a tag, the length of its payload in one byte, and the payload,
which may end in further descriptors:

* the stream descriptor (tag 3) holds an identifier and flags,
* in it the decoder descriptor (tag 4) holds what buffers and rates to expect,
* in that the decoder specific information (tag 5) is the configuration, and
* behind the decoder descriptor the synchronisation descriptor (tag 6) says
  that the file format keeps time.
-/

namespace AacConfig.Descriptor

/-- The tags of the descriptors. -/
inductive Tag
  | stream
  | decoder
  | specificInfo
  | synchronisation
deriving Repr, DecidableEq

/-- The byte of a tag. -/
def Tag.byte : Tag → UInt8
  | stream => 3
  | decoder => 4
  | specificInfo => 5
  | synchronisation => 6

/-- The bytes of a number, most significant first. -/
def bigEndian : (count : Nat) → (value : Nat) → List UInt8
  | 0, _ => []
  | count + 1, value => UInt8.ofNat (value / 256 ^ count) :: bigEndian count value

/-- The identifier and the flags of a stream, all zero. -/
def streamHeader : List UInt8 :=
  bigEndian 2 0 ++ [0]

/-- What a decoder is told about the stream: MPEG-4 audio, a downstream audio stream,
the size of the decoding buffer, and the greatest and the mean bit rate. -/
def decoderHeader : List UInt8 :=
  [0x40, 0x15] ++ bigEndian 3 0x1800 ++ bigEndian 4 0x80000 ++ bigEndian 4 0x40000

/-- The synchronisation by rules that are fixed for files. -/
def synchronisationPayload : List UInt8 := [2]

/-- The number of bytes around a configuration. -/
def overhead : Nat := 25

/-- The greatest number of configuration bytes that the outer length byte can count, which counts
neither its tag nor itself. -/
def greatestLength : Nat := 255 + 2 - overhead

/-- A configuration of too many bytes. -/
structure TooLong where
  /-- The number of bytes. -/
  length : Nat
deriving Repr, DecidableEq

/-- The wording of a refusal. -/
def TooLong.message (error : TooLong) : String :=
  s!"Extradata too long for ES_Descriptor: {error.length} > {greatestLength} bytes"

/-- The bytes of a descriptor around a configuration, one after the other. The outer length bytes
are counted back from the size of the whole. -/
def written (data : List UInt8) : List UInt8 :=
  let size := data.length + overhead
  [Tag.stream.byte, UInt8.ofNat (size - 2)] ++ streamHeader ++
    [Tag.decoder.byte, UInt8.ofNat (size - 10)] ++ decoderHeader ++
    [Tag.specificInfo.byte, UInt8.ofNat data.length] ++ data ++
    [Tag.synchronisation.byte, 1] ++ synchronisationPayload

/-- The descriptor around a configuration that is short enough for one. -/
def build (data : List UInt8) : Except TooLong (List UInt8) :=
  if greatestLength < data.length then .error { length := data.length }
  else .ok (written data)

end AacConfig.Descriptor
