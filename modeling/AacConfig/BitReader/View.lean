import AacConfig.BitReader
import AacConfig.Bits.Number

/-!
# The bits in front of a reader

A reader is a place in a list of bits: the bits that it may still give out are
`remaining`, and reading takes them from the front of that list. For a reader
that claims no more than its source has (`Covered`, which every start of a byte
string is), only the claim and the type of the answer decide whether bits are
given out (`Covered.pass_eq`). No read of such a reader goes beyond the end of
its source, so the two stay in step.
-/

namespace AacConfig.BitReader

/-- The bits of the source that the reader may give out. -/
def remaining (reader : BitReader) : List Bool :=
  ((Bits.ofBytes reader.source.data).drop reader.source.place).take
    (min reader.available reader.source.left)

/-- The source has every bit that the reader may give out, and both have come equally far. -/
structure Covered (reader : BitReader) : Prop where
  available_le : reader.available ≤ reader.source.left
  inStep : reader.source.place = reader.position

/-! ## Bits by index -/

/-- A byte holds the bits that its list holds. -/
theorem getElem?_ofByte (byte : UInt8) {index : Nat} (inside : index < 8) :
    (Bits.ofByte byte)[index]? = some (byte.toNat.testBit (7 - index)) := by
  simp [Bits.ofByte, inside]

/-- The bit at an index is the entry of the list of bits. -/
theorem getElem?_ofBytes (data : List UInt8) {index : Nat} (inside : index < 8 * data.length) :
    (Bits.ofBytes data)[index]? = some (bitAt data index) := by
  induction data generalizing index with
  | nil => simp at inside
  | cons byte rest ih =>
      rw [Bits.ofBytes_cons]
      by_cases first : index < 8
      · rw [List.getElem?_append_left (by simpa using first), getElem?_ofByte byte first]
        simp [bitAt, Nat.div_eq_of_lt first, Nat.mod_eq_of_lt first]
      · have bounded : index - 8 < 8 * rest.length := by
          simp only [List.length_cons] at inside
          omega
        have quotient : index / 8 = (index - 8) / 8 + 1 := by omega
        have remainder : (index - 8) % 8 = index % 8 := by omega
        rw [List.getElem?_append_right (by simpa using Nat.not_lt.mp first), Bits.length_ofByte,
          ih bounded]
        simp [bitAt, quotient, remainder]

/-- The bits behind an index are those of the list. -/
theorem toNat_take_drop (data : List UInt8) {index count : Nat}
    (inside : index + count ≤ 8 * data.length) :
    Bits.toNat (((Bits.ofBytes data).drop index).take count) = fieldAt data index count := by
  induction count with
  | zero => simp [fieldAt]
  | succ count ih =>
      have next : index + count < 8 * data.length := inside
      have entry :
          ((Bits.ofBytes data).drop index)[count]? = some (bitAt data (index + count)) := by
        rw [List.getElem?_drop, getElem?_ofBytes data next]
      rw [List.take_add_one, entry, Option.toList_some, Bits.toNat_append, ih (by omega), fieldAt,
        Nat.mul_comm]
      simp [Bits.toNat_cons]

/-! ## Readers whose data hold what they claim -/

/-- The start of a byte string claims what it holds. -/
theorem covered_ofBytes (data : List UInt8) : (ofBytes data).Covered where
  available_le := Nat.le_refl _
  inStep := rfl

/-- Moving within the bits left keeps a claim true. -/
theorem Covered.advance {reader : BitReader} (covered : reader.Covered) {count : Nat}
    (fits : count ≤ reader.available) : (reader.advance count).Covered where
  available_le := Nat.sub_le_sub_right covered.available_le count
  inStep := by
    rw [source_advance, BitSource.place_advance (Nat.le_trans fits covered.available_le),
      covered.inStep, position_advance]

/-- In front of a reader are the bits that its claim and its source both allow. -/
theorem length_remaining (reader : BitReader) :
    reader.remaining.length = min reader.available reader.source.left := by
  have within := reader.source.within
  simp only [remaining, List.length_take, List.length_drop, Bits.length_ofBytes]
  omega

theorem length_remaining_le (reader : BitReader) : reader.remaining.length ≤ reader.available := by
  rw [length_remaining]
  exact Nat.min_le_left _ _

/-- A reader stands in front of as many bits as it may give out. -/
theorem Covered.length_remaining {reader : BitReader} (covered : reader.Covered) :
    reader.remaining.length = reader.available := by
  rw [BitReader.length_remaining, Nat.min_eq_left covered.available_le]

/-- A reader whose claim is true is never asked for bits that its source lacks. -/
theorem Covered.stopped {reader : BitReader} (covered : reader.Covered) {count : Nat}
    (few : reader.remaining.length < count) : reader.stopped count = reader :=
  stopped_of_available_lt (covered.length_remaining ▸ few)

/-- At the start, all bits of the byte string are in front of the reader. -/
@[simp] theorem remaining_ofBytes (data : List UInt8) :
    (ofBytes data).remaining = Bits.ofBytes data := by
  simp [remaining, ofBytes, BitSource.ofBytes, List.take_of_length_le]

/-- Moving takes bits from the front. -/
@[simp] theorem remaining_advance (reader : BitReader) (count : Nat) :
    (reader.advance count).remaining = reader.remaining.drop count := by
  rcases Nat.le_total count reader.source.left with fits | beyond
  · simp only [remaining, source_advance, BitSource.data_advance, BitSource.left_advance,
      BitSource.place_advance fits, available_advance, List.drop_take, List.drop_drop,
      Nat.sub_min_sub_right]
  · -- nothing is left on either side
    have none : min (reader.available - count) (reader.source.left - count) = 0 := by omega
    have all : reader.remaining.length ≤ count := by
      rw [length_remaining]
      omega
    rw [List.drop_eq_nil_of_le all, remaining, available_advance, source_advance,
      BitSource.left_advance, none, List.take_zero]

/-! ## Reading takes from the front -/

/-- Where the data hold what is claimed, only the claim and the type are asked. -/
theorem Covered.pass_eq {reader : BitReader} (covered : reader.Covered) (capacity count : Nat) :
    pass capacity count reader =
      if reader.available < count then
        .error (.truncated count reader.position reader.available) reader
      else if capacity < count then
        .error (.truncated count reader.position 0) reader
      else
        .ok reader (reader.advance count) := by
  by_cases short : reader.available < count
  · rw [if_pos short, pass_of_available_lt capacity short]
  · have fits := Nat.not_lt.mp short
    rw [if_neg short]
    by_cases wide : capacity < count
    · rw [if_pos wide, pass_of_wide fits wide]
    · rw [if_neg wide,
        pass_of_fits fits (Nat.not_lt.mp wide) (Nat.le_trans fits covered.available_le)]

/-- The first bit in front of a reader is the next bit of its source. -/
theorem Covered.headD_take {reader : BitReader} (covered : reader.Covered)
    (fits : 1 ≤ reader.available) :
    (reader.remaining.take 1).headD false = bitAt reader.source.data reader.source.place := by
  have filled := Nat.le_trans fits covered.available_le
  have within := reader.source.within
  have first := getElem?_ofBytes reader.source.data (show reader.source.place < _ by omega)
  have enough : min reader.available reader.source.left ≠ 0 := by omega
  have head : (reader.remaining.take 1).head? =
      some (bitAt reader.source.data reader.source.place) := by
    simp [remaining, List.head?_take, List.head?_drop, first, enough]
  rw [List.headD_eq_head?_getD, head, Option.getD_some]

end AacConfig.BitReader
