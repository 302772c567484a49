import AacConfig.Proofs.Walks

/-!
# Escaped codes

Two fields have a short code and a long one that an escape announces: object
types in 5 or 11 bits, and sampling frequencies in 4 or 28. What is read is
told by the bits in front of the reader, whatever its claim and its position
are (`BitReader.escaped_codes_exact`):

* a value is read exactly where its code is in front, and no other value has a
  code in front of the same bits (`ObjectType.eq_of_prefix`,
  `SamplingFrequency.eq_of_prefix`);
* a read is refused at the first part that does not fit, where the reader has
  stopped, or behind an index without a meaning (`ObjectType.read_eq_error_iff`,
  `SamplingFrequency.read_eq_error_iff`).
-/

namespace AacConfig

/-! ## Fields that do not fit -/

namespace BitReader

variable {α : Type} {reader stop : BitReader} {reason : DecodeError} {capacity count : Nat}

/-- A field is refused exactly where it does not fit, and the reader stops there. -/
theorem readField_eq_error_iff (narrow : count ≤ capacity) :
    readField capacity count reader = .error reason stop ↔
      reader.remaining.length < count ∧ stop = reader.stopped count ∧
        reason = reader.shortage count := by
  rcases Nat.lt_or_ge reader.remaining.length count with few | enough
  · have refused : readField capacity count reader =
        .error (reader.shortage count) (reader.stopped count) :=
      bind_of_error (pass_of_remaining_lt narrow few) _
    rw [refused, and_iff_right few]
    constructor
    · intro same
      cases same
      exact ⟨rfl, rfl⟩
    · rintro ⟨rfl, rfl⟩
      rfl
  · have passed := pass_eq_ok_iff.mpr ⟨narrow, enough, rfl, rfl⟩
    have granted : readField capacity count reader =
        .ok (fieldAt reader.source.data reader.source.place count) (reader.advance count) :=
      bind_of_ok passed _
    rw [granted]
    constructor
    · intro same
      cases same
    · intro given
      exact absurd given.1 (Nat.not_lt.mpr enough)

/-- A field at the end of a read is all of it that may be refused. -/
theorem readField_pure_eq_error_iff (narrow : count ≤ capacity)
    {look : Nat → α} :
    (readField capacity count >>= fun value => pure (look value)) reader = .error reason stop ↔
      reader.remaining.length < count ∧ stop = reader.stopped count ∧
        reason = reader.shortage count := by
  rw [bind_eq_error_iff, readField_eq_error_iff narrow]
  constructor
  · rintro (refused | ⟨value, middle, -, never⟩)
    · exact refused
    · cases never
  · exact .inl

/-- A read that starts with a field is refused in front of it or behind it. -/
theorem readField_bind_eq_error_iff (narrow : count ≤ capacity) {rest : Nat → Reading α} :
    (readField capacity count >>= rest) reader = .error reason stop ↔
      (reader.remaining.length < count ∧ stop = reader.stopped count ∧
        reason = reader.shortage count) ∨
      ∃ value, value < 2 ^ count ∧ Bits.ofNat count value <+: reader.remaining ∧
        rest value (reader.advance count) = .error reason stop := by
  rw [bind_eq_error_iff, readField_eq_error_iff narrow]
  simp only [readField_eq_ok_iff narrow]
  apply or_congr_right
  constructor
  · rintro ⟨value, middle, ⟨fits, front, rfl⟩, refused⟩
    exact ⟨value, fits, front, refused⟩
  · rintro ⟨value, fits, front, refused⟩
    exact ⟨value, _, ⟨fits, front, rfl⟩, refused⟩

theorem length_remaining_advance_lt_iff {width : Nat} (positive : 0 < count) :
    (reader.advance width).remaining.length < count ↔
      reader.remaining.length < width + count := by
  rw [remaining_advance, List.length_drop]
  omega

end BitReader

/-- Two numbers of one width with their codes in front of the same bits are the same. -/
theorem Bits.eq_of_ofNat_prefix {width value other : Nat} {bits : List Bool}
    (fits : value < 2 ^ width) (otherFits : other < 2 ^ width)
    (front : ofNat width value <+: bits) (otherFront : ofNat width other <+: bits) :
    value = other := by
  have first := (ofNat_prefix_iff.mp ⟨fits, front⟩).2
  have second := (ofNat_prefix_iff.mp ⟨otherFits, otherFront⟩).2
  rw [first, second]

/-! ## Object types -/

namespace ObjectType

variable {reader stop next : BitReader} {reason : DecodeError} {code other : ObjectType}
  {bits : List Bool}

/-- The two forms of the code of a type, and how far each of them moves the reader. -/
theorem read_eq_ok_iff_code :
    read reader = .ok code next ↔
      (code < 31 ∧ Bits.ofNat 5 code <+: reader.remaining ∧ next = reader.advance 5) ∨
      (32 ≤ code ∧ code ≤ 95 ∧
        Bits.ofNat 5 31 ++ Bits.ofNat 6 (code - 32) <+: reader.remaining ∧
        next = reader.advance 11) := by
  rw [read_eq_ok_iff, IsCodable, or_and_right]
  apply or_congr
  · apply and_congr_right
    intro low
    rw [bits_of_lt low, Bits.length_ofNat]
  · rw [and_assoc]
    apply and_congr_right
    intro high
    rw [bits_of_ge high, List.length_append, Bits.length_ofNat, Bits.length_ofNat]

theorem read_eq_error_iff :
    read reader = .error reason stop ↔
      (reader.remaining.length < 5 ∧ stop = reader.stopped 5 ∧ reason = reader.shortage 5) ∨
      (Bits.ofNat 5 31 <+: reader.remaining ∧ reader.remaining.length < 11 ∧
        stop = (reader.advance 5).stopped 6 ∧ reason = (reader.advance 5).shortage 6) := by
  rw [read, BitReader.readField_bind_eq_error_iff (by omega)]
  apply or_congr_right
  have behind : ∀ {value}, (if value = escape then do
        return 32 + (← BitReader.readField 8 6)
      else return value : Reading ObjectType) (reader.advance 5) = .error reason stop ↔
        value = 31 ∧ reader.remaining.length < 11 ∧ stop = (reader.advance 5).stopped 6 ∧
          reason = (reader.advance 5).shortage 6 := by
    intro value
    by_cases escaped : value = escape
    · rw [if_pos escaped, BitReader.readField_pure_eq_error_iff (by omega),
        BitReader.length_remaining_advance_lt_iff (by omega), and_iff_right escaped]
    · rw [if_neg escaped]
      constructor
      · intro never
        cases never
      · intro given
        exact absurd given.1 escaped
  simp only [behind]
  constructor
  -- of all values of the five bits only the escape has something behind it to be refused
  · rintro ⟨_, -, front, rfl, refused⟩
    exact ⟨front, refused⟩
  · rintro ⟨front, refused⟩
    exact ⟨31, by omega, front, rfl, refused⟩

/-- The number in the five bits that a code starts with. -/
def leading (code : ObjectType) : Nat :=
  if code < escape then code else escape

theorem leading_prefix (codable : code.IsCodable) (front : code.bits <+: bits) :
    code.leading < 2 ^ 5 ∧ Bits.ofNat 5 code.leading <+: bits := by
  rcases codable with low | ⟨high, -⟩
  · rw [leading, if_pos low]
    rw [bits_of_lt low] at front
    exact ⟨Nat.lt_trans low (by decide), front⟩
  · have above : ¬ code < escape := Nat.not_lt.mpr (Nat.le_trans (by decide) high)
    rw [leading, if_neg above]
    rw [bits_of_ge high] at front
    exact ⟨by decide, (Bits.append_prefix_iff.mp front).1⟩

/-- No two types have their codes in front of the same bits. -/
theorem eq_of_prefix (codable : code.IsCodable) (otherCodable : other.IsCodable)
    (front : code.bits <+: bits) (otherFront : other.bits <+: bits) : code = other := by
  obtain ⟨fits, starts⟩ := leading_prefix codable front
  obtain ⟨otherFits, otherStarts⟩ := leading_prefix otherCodable otherFront
  have same := Bits.eq_of_ofNat_prefix fits otherFits starts otherStarts
  unfold leading at same
  -- a short code never starts with the escape, so the two codes have one form
  rcases codable with low | ⟨high, bounded⟩
  · rcases otherCodable with otherLow | ⟨otherHigh, -⟩
    · rwa [if_pos low, if_pos otherLow] at same
    · have above : ¬ other < escape := Nat.not_lt.mpr (Nat.le_trans (by decide) otherHigh)
      rw [if_pos low, if_neg above] at same
      exact absurd same (Nat.ne_of_lt low)
  · have above : ¬ code < escape := Nat.not_lt.mpr (Nat.le_trans (by decide) high)
    rcases otherCodable with otherLow | ⟨otherHigh, otherBounded⟩
    · rw [if_neg above, if_pos otherLow] at same
      exact absurd same.symm (Nat.ne_of_lt otherLow)
    · rw [bits_of_ge high] at front
      rw [bits_of_ge otherHigh] at otherFront
      have small : ∀ number : Nat, number ≤ 95 → number - 32 < 2 ^ 6 := by omega
      have behind := Bits.eq_of_ofNat_prefix (small code bounded) (small other otherBounded)
        (Bits.append_prefix_iff.mp front).2 (Bits.append_prefix_iff.mp otherFront).2
      calc code
        _ = code - 32 + 32 := (Nat.sub_add_cancel high).symm
        _ = other - 32 + 32 := by rw [behind]
        _ = other := Nat.sub_add_cancel otherHigh

end ObjectType

/-! ## Sampling frequencies -/

namespace SamplingFrequency

variable {reader stop next : BitReader} {reason : DecodeError}
  {frequency other : SamplingFrequency} {bits : List Bool}

theorem bits_of_table (listed : table[frequency.index]? = some frequency.hertz) :
    frequency.bits = Bits.ofNat 4 frequency.index := by
  have plain : frequency.index ≠ explicitIndex :=
    Nat.ne_of_lt (Nat.lt_trans (index_lt_of_table listed) (by decide))
  rw [bits, if_neg plain, List.append_nil]

theorem bits_of_explicit (written : frequency.index = explicitIndex) :
    frequency.bits = Bits.ofNat 4 15 ++ Bits.ofNat 24 frequency.hertz := by
  rw [bits, if_pos written, written, explicitIndex]

/-- The two forms of the code of a frequency, and how far each of them moves the reader. -/
theorem read_eq_ok_iff_code :
    read reader = .ok frequency next ↔
      (table[frequency.index]? = some frequency.hertz ∧
        Bits.ofNat 4 frequency.index <+: reader.remaining ∧ next = reader.advance 4) ∨
      (frequency.index = 15 ∧ frequency.hertz < 2 ^ 24 ∧
        Bits.ofNat 4 15 ++ Bits.ofNat 24 frequency.hertz <+: reader.remaining ∧
        next = reader.advance 28) := by
  rw [read_eq_ok_iff, IsSignalled, or_and_right]
  apply or_congr
  · apply and_congr_right
    intro listed
    rw [bits_of_table listed, Bits.length_ofNat]
  · rw [and_assoc]
    apply and_congr_right
    intro written
    rw [bits_of_explicit written, List.length_append, Bits.length_ofNat, Bits.length_ofNat]
    rfl

theorem read_eq_error_iff :
    read reader = .error reason stop ↔
      (reader.remaining.length < 4 ∧ stop = reader.stopped 4 ∧ reason = reader.shortage 4) ∨
      (Bits.ofNat 4 15 <+: reader.remaining ∧ reader.remaining.length < 28 ∧
        stop = (reader.advance 4).stopped 24 ∧ reason = (reader.advance 4).shortage 24) ∨
      ∃ index, (index = 13 ∨ index = 14) ∧ Bits.ofNat 4 index <+: reader.remaining ∧
        stop = reader.advance 4 ∧ reason = .reservedFrequencyIndex index := by
  rw [read, BitReader.readField_bind_eq_error_iff (by omega)]
  apply or_congr_right
  constructor
  · rintro ⟨index, fits, front, refused⟩
    -- an explicit frequency may lack its 24 bits; any other index is refused only for its meaning
    by_cases written : index = explicitIndex
    · rw [if_pos written, BitReader.readField_pure_eq_error_iff (by omega),
        BitReader.length_remaining_advance_lt_iff (by omega)] at refused
      rw [written] at front
      exact .inl ⟨front, refused⟩
    · rw [if_neg written] at refused
      cases listed : table[index]? with
      | some hertz =>
          rw [listed] at refused
          cases refused
      | none =>
          rw [listed] at refused
          cases refused
          exact .inr ⟨index, (isReserved_iff fits).mpr ⟨written, listed⟩, front, rfl, rfl⟩
  · rintro (⟨front, few, rfl, rfl⟩ | ⟨index, reserved, front, rfl, rfl⟩)
    · refine ⟨explicitIndex, by decide, front, ?_⟩
      rw [if_pos rfl, BitReader.readField_pure_eq_error_iff (by omega),
        BitReader.length_remaining_advance_lt_iff (by omega)]
      exact ⟨few, rfl, rfl⟩
    · have fits := IsReserved.lt reserved
      obtain ⟨written, listed⟩ := (isReserved_iff fits).mp reserved
      refine ⟨index, fits, front, ?_⟩
      rw [if_neg written, listed]
      rfl

theorem IsSignalled.index_lt (signalled : frequency.IsSignalled) : frequency.index < 2 ^ 4 := by
  rcases signalled with listed | ⟨written, -⟩
  · have small := index_lt_of_table listed
    omega
  · rw [written]
    decide

/-- No two frequencies have their codes in front of the same bits. -/
theorem eq_of_prefix (signalled : frequency.IsSignalled) (otherSignalled : other.IsSignalled)
    (front : frequency.bits <+: bits) (otherFront : other.bits <+: bits) : frequency = other := by
  have index : frequency.index = other.index :=
    Bits.eq_of_ofNat_prefix signalled.index_lt otherSignalled.index_lt
      (Bits.append_prefix_iff.mp front).1 (Bits.append_prefix_iff.mp otherFront).1
  have hertz : frequency.hertz = other.hertz := by
    rcases signalled with listed | ⟨written, small⟩
    · rcases otherSignalled with otherListed | ⟨otherWritten, -⟩
      · rw [index, otherListed] at listed
        exact (Option.some.inj listed).symm
      · have within := index_lt_of_table listed
        rw [index, otherWritten] at within
        exact absurd within (by decide)
    · rcases otherSignalled with otherListed | ⟨otherWritten, otherSmall⟩
      · have within := index_lt_of_table otherListed
        rw [← index, written] at within
        exact absurd within (by decide)
      · rw [bits_of_explicit written] at front
        rw [bits_of_explicit otherWritten] at otherFront
        exact Bits.eq_of_ofNat_prefix small otherSmall (Bits.append_prefix_iff.mp front).2
          (Bits.append_prefix_iff.mp otherFront).2
  calc frequency
    _ = ⟨frequency.index, frequency.hertz⟩ := rfl
    _ = other := by rw [index, hertz]

end SamplingFrequency

/-! ## Both codes -/

/-- **Escaped codes.** From any reader an object type is read exactly where its 5 or 11 bits are in
front, and a frequency where its 4 or 28 bits are, and the reader moves by their number. All other
reads are refused: for a lack of bits at the first part or at the part behind the escape, where the
reader stops; and for an index of 13 or 14, which leaves the reader behind it. A reader that stops
keeps its position and the number of bits it may give out, and nothing of it changes at all where
its claim is true. Neither field has two values with codes in front of the same bits. -/
theorem BitReader.escaped_codes_exact (reader : BitReader) :
    (∀ code next, ObjectType.read reader = .ok code next ↔
      (code < 31 ∧ Bits.ofNat 5 code <+: reader.remaining ∧ next = reader.advance 5) ∨
      (32 ≤ code ∧ code ≤ 95 ∧
        Bits.ofNat 5 31 ++ Bits.ofNat 6 (code - 32) <+: reader.remaining ∧
        next = reader.advance 11)) ∧
    (∀ reason stop, ObjectType.read reader = .error reason stop ↔
      (reader.remaining.length < 5 ∧ stop = reader.stopped 5 ∧ reason = reader.shortage 5) ∨
      (Bits.ofNat 5 31 <+: reader.remaining ∧ reader.remaining.length < 11 ∧
        stop = (reader.advance 5).stopped 6 ∧ reason = (reader.advance 5).shortage 6)) ∧
    (∀ frequency next, SamplingFrequency.read reader = .ok frequency next ↔
      (SamplingFrequency.table[frequency.index]? = some frequency.hertz ∧
        Bits.ofNat 4 frequency.index <+: reader.remaining ∧ next = reader.advance 4) ∨
      (frequency.index = 15 ∧ frequency.hertz < 2 ^ 24 ∧
        Bits.ofNat 4 15 ++ Bits.ofNat 24 frequency.hertz <+: reader.remaining ∧
        next = reader.advance 28)) ∧
    (∀ reason stop, SamplingFrequency.read reader = .error reason stop ↔
      (reader.remaining.length < 4 ∧ stop = reader.stopped 4 ∧ reason = reader.shortage 4) ∨
      (Bits.ofNat 4 15 <+: reader.remaining ∧ reader.remaining.length < 28 ∧
        stop = (reader.advance 4).stopped 24 ∧ reason = (reader.advance 4).shortage 24) ∨
      ∃ index, (index = 13 ∨ index = 14) ∧ Bits.ofNat 4 index <+: reader.remaining ∧
        stop = reader.advance 4 ∧ reason = .reservedFrequencyIndex index) ∧
    (∀ (start : BitReader) (count : Nat), (start.stopped count).position = start.position ∧
      (start.stopped count).available = start.available ∧
      (start.Covered → start.remaining.length < count → start.stopped count = start)) ∧
    (∀ (bits : List Bool) (code other : ObjectType), code.IsCodable → other.IsCodable →
      code.bits <+: bits → other.bits <+: bits → code = other) ∧
    ∀ (bits : List Bool) (frequency other : SamplingFrequency), frequency.IsSignalled →
      other.IsSignalled → frequency.bits <+: bits → other.bits <+: bits → frequency = other :=
  ⟨fun _ _ => ObjectType.read_eq_ok_iff_code, fun _ _ => ObjectType.read_eq_error_iff,
    fun _ _ => SamplingFrequency.read_eq_ok_iff_code,
    fun _ _ => SamplingFrequency.read_eq_error_iff,
    fun start count => ⟨start.position_stopped count, start.available_stopped count,
      fun covered few => covered.stopped few⟩,
    fun _ _ _ => ObjectType.eq_of_prefix, fun _ _ _ => SamplingFrequency.eq_of_prefix⟩

end AacConfig
