import AacConfig.Command.Invocation
import AacConfig.Descriptor

/-!
# Input of a run

A run reads its configuration from its words, from standard input or from a
file. The surroundings of a run say what stands on standard input and what
opening a path gives: bytes that are read one after the other, up to their end
or to an error of the system. A directory can be opened and has no bytes before
its error, so the attempt to read it is logged like any other.

A run takes one byte more than a configuration may have, and is refused if it
gets it. What stands behind is not read, be it more bytes or an error
(`ByteStream.front_cut`).
-/

namespace AacConfig.Command

open Log

/-- Why the system refuses to open a path or to read on. -/
inductive SystemError
  | notFound
  | notDirectory
  | isDirectory
  | nameTooLong
  /-- Any other reason, by its description and number. -/
  | other (description : String) (number : Nat)
deriving Repr, DecidableEq

/-- The wording of a refusal of the system. -/
def SystemError.message : SystemError → String
  | notFound => "No such file or directory (os error 2)"
  | notDirectory => "Not a directory (os error 20)"
  | isDirectory => "Is a directory (os error 21)"
  | nameTooLong => "File name too long (os error 36)"
  | other description number => s!"{description} (os error {number})"

/-- Bytes that can be read one after the other. -/
structure ByteStream where
  /-- The bytes. -/
  bytes : List UInt8
  /-- The error behind the bytes, if there is one. -/
  ending : Option SystemError := none
deriving Repr, DecidableEq

namespace ByteStream

/-- The bytes of a stream, no more than `limit` of them. An error behind them counts if they are
fewer. -/
def front (stream : ByteStream) (limit : Nat) : Except SystemError (List UInt8) :=
  if stream.bytes.length < limit then
    match stream.ending with
    | none => .ok stream.bytes
    | some reason => .error reason
  else
    .ok (stream.bytes.take limit)

theorem front_of_le {stream : ByteStream} {limit : Nat} (many : limit ≤ stream.bytes.length) :
    stream.front limit = .ok (stream.bytes.take limit) :=
  if_neg (Nat.not_lt.mpr many)

/-- The part of a stream that is read where no more than `limit` bytes are taken. -/
def cut (stream : ByteStream) (limit : Nat) : ByteStream :=
  if stream.bytes.length < limit then stream else { bytes := stream.bytes.take limit }

/-- Only the part of a stream that is read matters. -/
theorem front_cut (stream : ByteStream) (limit : Nat) :
    (stream.cut limit).front limit = stream.front limit := by
  unfold cut
  by_cases few : stream.bytes.length < limit
  · rw [if_pos few]
  · have many := Nat.not_lt.mp few
    have length : (stream.bytes.take limit).length = limit := List.length_take_of_le many
    rw [if_neg few, front_of_le many, front_of_le (Nat.le_of_eq length.symm), List.take_take,
      Nat.min_self]

end ByteStream

/-- What a run finds around it. -/
structure Surroundings where
  /-- What stands on standard input. -/
  standardInput : ByteStream
  /-- What opening a path gives. -/
  openPath : String → Except SystemError ByteStream

/-- A place that a configuration is read from. -/
inductive Source
  | hex (text : String)
  | standardInput
  | file (path : String)
deriving Repr, DecidableEq

/-- Why an action ends without a result. -/
inductive Failure
  /-- No word says where the configuration comes from. -/
  | noSource
  /-- The hexadecimal text is no byte string. -/
  | hex (reason : Hex.Error)
  /-- The system refuses the input. -/
  | system (reason : SystemError)
  /-- The input is longer than any configuration. -/
  | oversized
  /-- The configuration is refused. -/
  | refused (reason : DecodeError)
  /-- The configuration does not fit a descriptor. -/
  | tooLong (reason : Descriptor.TooLong)
deriving Repr, DecidableEq

/-- The greatest number of bytes that an input may have. -/
def greatestInput : Nat := 65536

/-- The wording of a failure. -/
def Failure.message : Failure → String
  | noSource => "No input given; pass a path or --hex"
  | hex reason => reason.message
  | system reason => reason.message
  | oversized => s!"Input exceeds {greatestInput} bytes; expected raw decoder specific info"
  | refused reason => reason.message
  | tooLong reason => reason.message

/-- A part of a run that may fail and logs events. A failure keeps the events before it. -/
abbrev Step := EStateM Failure (List Event)

/-- Logs events. -/
def log (events : List Event) : Step Unit :=
  modify fun earlier => earlier ++ events

/-- The place that the words name. Hexadecimal text is preferred to an input, and the
input of a single dash is standard input. -/
def SourceWords.source (words : SourceWords) : Step Source :=
  match words.hex, words.input with
  | some text, _ => return .hex text
  | none, some "-" => return .standardInput
  | none, some path => return .file path
  | none, none => throw .noSource

/-- The bytes of a stream, which are no more than a configuration may have. -/
def ByteStream.read (stream : ByteStream) : Step (List UInt8) :=
  match stream.front (greatestInput + 1) with
  | .error reason => throw (.system reason)
  | .ok data => if greatestInput < data.length then throw .oversized else return data

/-- The bytes at a place. -/
def Source.read (surroundings : Surroundings) : Source → Step (List UInt8)
  | hex text =>
      match Hex.parse text with
      | .ok data => return data
      | .error reason => throw (.hex reason)
  | standardInput => do
      log [.readingStandardInput]
      surroundings.standardInput.read
  | file path =>
      match surroundings.openPath path with
      | .error reason => throw (.system reason)
      | .ok stream => do
          log [.readingFile path]
          stream.read

end AacConfig.Command
