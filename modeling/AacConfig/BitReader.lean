import AacConfig.Bits
import AacConfig.DecodeError

/-!
# Reading fields of bits

A `BitReader` hands out the bits of a byte string, the most significant bit of
each byte first. It counts the bits behind it and the bits it may still give
out, and takes them from a `BitSource` below it that knows the bytes and keeps
a place of its own:

* a field that does not fit the count is refused with the number of bits that
  are left, and nothing moves (`pass_of_available_lt`);
* a field wider than the number that takes it is refused with no bits left, and
  nothing moves (`pass_of_wide`);
* a field that the source cannot fill although the count says so is refused
  with no bits left too. The count stays, but the source loses bits on the way
  to its end (`pass_of_unfilled`), so from here on its place is another one;
* every other field is read, and both move by exactly its width
  (`pass_of_fits`).

Place and position are the same until a source is asked for more than it has,
which a reader that claims no more than its data hold never does (`Covered`).
-/

namespace AacConfig

/-- Which of its bits a source loses when it is asked for more than it has. -/
structure Loss where
  /-- The number of bits that are lost from the front. -/
  passed : Nat
  /-- The greatest number of bits that are kept behind them. -/
  kept : Nat
deriving Repr, DecidableEq

/-- The bits of a byte string that can still be taken. -/
structure BitSource where
  /-- The bytes. -/
  data : List UInt8
  /-- The number of bits in front of the next one. -/
  place : Nat
  /-- The number of bits that can be taken. -/
  left : Nat
  /-- What is lost by the coming reads beyond the end, in their order. Where the list is over, all
  bits are lost. -/
  losses : List Loss
  /-- The bits to be taken are bits of the bytes. -/
  within : place + left ≤ 8 * data.length
deriving Repr, DecidableEq

namespace BitSource

/-- All bits of a byte string. -/
def ofBytes (data : List UInt8) (losses : List Loss) : BitSource where
  data
  place := 0
  left := 8 * data.length
  losses
  within := Nat.le_of_eq (Nat.zero_add _)

/-- The source behind `count` of its bits. -/
def advance (source : BitSource) (count : Nat) : BitSource :=
  { source with
    place := source.place + min count source.left
    left := source.left - count
    within := by
      have := source.within
      omega }

/-- The source behind a read beyond its end. -/
def overrun (source : BitSource) : BitSource :=
  match source.losses with
  | [] => source.advance source.left
  | loss :: rest =>
      let behind := source.advance loss.passed
      { behind with
        left := min loss.kept behind.left
        losses := rest
        within := by
          have := behind.within
          omega }

end BitSource

/-- A position in a byte string, counted in bits. -/
structure BitReader where
  /-- The bits below the reader. -/
  source : BitSource
  /-- The number of bits behind the reader. -/
  position : Nat
  /-- The number of bits that the reader may still give out. -/
  available : Nat
deriving Repr, DecidableEq

/-- Steps of a reader that may be refused. A refusal keeps what was read before it. -/
abbrev Reading := EStateM DecodeError BitReader

namespace BitReader

/-- The start of a byte string, with all of its bits to give out. -/
def ofBytes (data : List UInt8) : BitReader where
  source := .ofBytes data []
  position := 0
  available := 8 * data.length

/-- The start of a byte string that is said to have `count` bytes. The count of
bits is kept in a word of 64 bits. -/
def ofClaim (data : List UInt8) (count : Nat) (losses : List Loss) : BitReader where
  source := .ofBytes data losses
  position := 0
  available := 8 * count % UInt64.size

/-- The number of bits that a reader gives out from start to end. -/
def length (reader : BitReader) : Nat :=
  reader.position + reader.available

/-- Whether a reader never had a bit to give out. -/
def isEmpty (reader : BitReader) : Bool :=
  reader.length == 0

/-- The bit at an index of a byte string, counted from the most significant bit
of the first byte, and zero behind the end. -/
def bitAt (data : List UInt8) (index : Nat) : Bool :=
  (data[index / 8]?.getD 0).toNat.testBit (7 - index % 8)

/-- The number that `count` bits from an index on spell. -/
def fieldAt (data : List UInt8) (index : Nat) : (count : Nat) → Nat
  | 0 => 0
  | count + 1 => 2 * fieldAt data index count + (bitAt data (index + count)).toNat

/-- The reader moved by `count` bits. -/
def advance (reader : BitReader) (count : Nat) : BitReader where
  source := reader.source.advance count
  position := reader.position + count
  available := reader.available - count

/-- The reader behind a refusal of `count` bits that are not there. Where the count lacks them the
source is not asked for them. -/
def stopped (reader : BitReader) (count : Nat) : BitReader :=
  if reader.available < count then reader
  else { reader with source := reader.source.overrun }

/-- Moves over `count` bits that a number of `capacity` bits is to take, and gives
the reader as it stood before them. -/
def pass (capacity count : Nat) : Reading BitReader := fun reader =>
  if reader.available < count then
    .error (.truncated count reader.position reader.available) reader
  else if capacity < count then
    .error (.truncated count reader.position 0) reader
  else if reader.source.left < count then
    .error (.truncated count reader.position 0) (reader.stopped count)
  else
    .ok reader (reader.advance count)

/-- The `count` bits at the reader as a number, for a number type of `capacity` bits. -/
def readField (capacity count : Nat) : Reading Nat := do
  let start ← pass capacity count
  return fieldAt start.source.data start.source.place count

/-- The bit at the reader. -/
def readBit : Reading Bool := do
  let start ← pass 1 1
  return bitAt start.source.data start.source.place

/-- Moves over `count` bits. -/
def skip (count : Nat) : Reading Unit := do
  let _ ← pass count count

end BitReader

/-! ## Moving -/

namespace BitSource

@[simp] theorem data_advance (source : BitSource) (count : Nat) :
    (source.advance count).data = source.data := rfl

@[simp] theorem losses_advance (source : BitSource) (count : Nat) :
    (source.advance count).losses = source.losses := rfl

@[simp] theorem left_advance (source : BitSource) (count : Nat) :
    (source.advance count).left = source.left - count := rfl

/-- Bits that are there are passed one by one. -/
theorem place_advance {source : BitSource} {count : Nat} (fits : count ≤ source.left) :
    (source.advance count).place = source.place + count := by
  simp only [advance, Nat.min_eq_left fits]

/-- Moving twice is moving by both widths. -/
@[simp] theorem advance_advance (source : BitSource) (first second : Nat) :
    (source.advance first).advance second = source.advance (first + second) := by
  simp only [advance, mk.injEq, true_and, and_true]
  omega

@[simp] theorem advance_zero (source : BitSource) : source.advance 0 = source := by
  simp [advance]

@[simp] theorem data_overrun (source : BitSource) : source.overrun.data = source.data := by
  unfold overrun
  split
  · rfl
  · rfl

/-- A read beyond the end goes on, and never back. -/
theorem place_le_overrun (source : BitSource) : source.place ≤ source.overrun.place := by
  unfold overrun
  split
  · exact Nat.le_add_right _ _
  · exact Nat.le_add_right _ _

end BitSource

namespace BitReader

@[simp] theorem length_ofBytes (data : List UInt8) : (ofBytes data).length = 8 * data.length := by
  simp [ofBytes, length]

@[simp] theorem source_advance (reader : BitReader) (count : Nat) :
    (reader.advance count).source = reader.source.advance count := rfl

@[simp] theorem position_advance (reader : BitReader) (count : Nat) :
    (reader.advance count).position = reader.position + count := rfl

@[simp] theorem available_advance (reader : BitReader) (count : Nat) :
    (reader.advance count).available = reader.available - count := rfl

/-- Moving within the bits left keeps the number of bits from start to end. -/
theorem length_advance {reader : BitReader} {count : Nat} (fits : count ≤ reader.available) :
    (reader.advance count).length = reader.length := by
  simp only [length, position_advance, available_advance]
  omega

/-- Moving twice is moving by both widths. -/
@[simp] theorem advance_advance (reader : BitReader) (first second : Nat) :
    (reader.advance first).advance second = reader.advance (first + second) := by
  simp only [advance, BitSource.advance_advance, mk.injEq, true_and]
  omega

@[simp] theorem advance_zero (reader : BitReader) : reader.advance 0 = reader := by
  simp [advance]

/-! ## Stopping -/

@[simp] theorem position_stopped (reader : BitReader) (count : Nat) :
    (reader.stopped count).position = reader.position := by
  unfold stopped
  split
  · rfl
  · rfl

@[simp] theorem available_stopped (reader : BitReader) (count : Nat) :
    (reader.stopped count).available = reader.available := by
  unfold stopped
  split
  · rfl
  · rfl

@[simp] theorem length_stopped (reader : BitReader) (count : Nat) :
    (reader.stopped count).length = reader.length := by
  simp only [length, position_stopped, available_stopped]

/-- Bits that the count lacks leave the reader as it was. -/
theorem stopped_of_available_lt {reader : BitReader} {count : Nat}
    (short : reader.available < count) : reader.stopped count = reader :=
  if_pos short

/-! ## What a read does -/

section Pass

variable {reader : BitReader} {capacity count : Nat}

/-- Bits that are not left are refused, and the refusal says how many are left. -/
theorem pass_of_available_lt (capacity : Nat) (short : reader.available < count) :
    pass capacity count reader =
      .error (.truncated count reader.position reader.available) reader := by
  simp [pass, short]

/-- Bits that the number type cannot hold are refused as if none were left. -/
theorem pass_of_wide (fits : count ≤ reader.available) (wide : capacity < count) :
    pass capacity count reader = .error (.truncated count reader.position 0) reader := by
  simp [pass, Nat.not_lt.mpr fits, wide]

/-- Bits that the source does not have are refused as if none were left, and the source loses
bits. -/
theorem pass_of_unfilled (fits : count ≤ reader.available) (narrow : count ≤ capacity)
    (unfilled : reader.source.left < count) :
    pass capacity count reader =
      .error (.truncated count reader.position 0) (reader.stopped count) := by
  simp [pass, Nat.not_lt.mpr fits, Nat.not_lt.mpr narrow, unfilled]

/-- Any other bits are given out, and the reader moves by their number. -/
theorem pass_of_fits (fits : count ≤ reader.available) (narrow : count ≤ capacity)
    (filled : count ≤ reader.source.left) :
    pass capacity count reader = .ok reader (reader.advance count) := by
  simp [pass, Nat.not_lt.mpr fits, Nat.not_lt.mpr narrow, Nat.not_lt.mpr filled]

end Pass

end BitReader

end AacConfig
