import AacConfig.BitReader.View
import AacConfig.ObjectType
import AacConfig.SamplingFrequency

/-!
# Granted reads

A read is granted exactly when the bits in front of the reader start with the
code of what is read, and the reader then moves by exactly the length of that
code:

* numbers, flags and skipped bits (`BitReader.readField_eq_ok_iff`,
  `BitReader.readBit_eq_ok_iff`, `BitReader.skip_eq_ok_iff`);
* object types in their short or escaped code (`ObjectType.read_eq_ok_iff`);
* sampling frequencies by index or written out
  (`SamplingFrequency.read_eq_ok_iff`).

None of these needs the reader's claim to be true, or its source to be at its
position: a claim that the source cannot meet only makes the bits in front of
it fewer.
-/

namespace AacConfig

/-! ## Codes in front of bits -/

namespace Bits

/-- A number is in front in its code exactly if it is the number that the first bits spell. -/
theorem ofNat_prefix_iff {width value : Nat} {bits : List Bool} :
    value < 2 ^ width ∧ ofNat width value <+: bits ↔
      width ≤ bits.length ∧ value = toNat (bits.take width) := by
  constructor
  · rintro ⟨fits, rest, rfl⟩
    have taken : (ofNat width value ++ rest).take width = ofNat width value := by
      rw [List.take_append_of_le_length (by simp), List.take_of_length_le (by simp)]
    rw [taken, toNat_ofNat fits]
    exact ⟨by simp, rfl⟩
  · rintro ⟨enough, rfl⟩
    have length : (bits.take width).length = width := by simp [enough]
    have fits := toNat_lt (bits.take width)
    have code := ofNat_toNat (bits.take width)
    rw [length] at fits code
    rw [code]
    exact ⟨fits, List.take_prefix width bits⟩

/-- Two codes are in front if the first is and the second is behind it. -/
theorem append_prefix_iff {front back bits : List Bool} :
    front ++ back <+: bits ↔ front <+: bits ∧ back <+: bits.drop front.length := by
  constructor
  · rintro ⟨rest, rfl⟩
    simp [List.append_assoc]
  · intro given
    obtain ⟨⟨rest, rfl⟩, behind⟩ := given
    rw [List.drop_left] at behind
    exact (List.prefix_append_right_inj front).mpr behind

theorem cons_prefix_iff {bit : Bool} {back bits : List Bool} :
    bit :: back <+: bits ↔ [bit] <+: bits ∧ back <+: bits.drop 1 :=
  @append_prefix_iff [bit] back bits

/-- Where enough bits are left, some code of that width is in front. -/
theorem exists_prefix_of_le {width : Nat} {bits : List Bool} (enough : width ≤ bits.length) :
    ∃ front : List Bool, front.length = width ∧ front <+: bits :=
  ⟨bits.take width, by simp [enough], List.take_prefix width bits⟩

end Bits

/-! ## Sequences of steps -/

section Sequence

variable {ε σ α β : Type} {start middle stop : σ}

/-- A sequence is granted if its first part is and its second part is from there on. -/
theorem bind_eq_ok_iff {first : EStateM ε σ α} {second : α → EStateM ε σ β} {value : β} :
    (first >>= second) start = .ok value stop ↔
      ∃ found middle, first start = .ok found middle ∧ second found middle = .ok value stop := by
  simp only [bind, EStateM.bind]
  cases first start with
  | error reason refused => simp
  | ok found middle =>
      constructor
      · intro granted
        exact ⟨found, middle, rfl, granted⟩
      · intro given
        obtain ⟨_, _, same, granted⟩ := given
        cases same
        exact granted

/-- Behind a granted first part a sequence is its second part. -/
theorem bind_of_ok {first : EStateM ε σ α} {found : α}
    (granted : first start = .ok found middle) (second : α → EStateM ε σ β) :
    (first >>= second) start = second found middle := by
  simp only [bind, EStateM.bind, granted]

theorem bind_of_error {first : EStateM ε σ α} {reason : ε}
    (refused : first start = .error reason middle) (second : α → EStateM ε σ β) :
    (first >>= second) start = .error reason middle := by
  simp only [bind, EStateM.bind, refused]

/-- A sequence is refused if its first part is, or its second part behind a granted first. -/
theorem bind_eq_error_iff {first : EStateM ε σ α} {second : α → EStateM ε σ β} {reason : ε} :
    (first >>= second) start = .error reason stop ↔
      first start = .error reason stop ∨
        ∃ found middle, first start = .ok found middle ∧
          second found middle = .error reason stop := by
  cases read : first start with
  | error earlier reached => simp [bind_of_error read]
  | ok found middle =>
      rw [bind_of_ok read]
      constructor
      · intro refused
        exact .inr ⟨found, middle, rfl, refused⟩
      · rintro (refused | ⟨_, _, same, refused⟩)
        · cases refused
        · cases same
          exact refused

theorem pure_eq_ok_iff {value found : α} :
    (pure value : EStateM ε σ α) start = .ok found stop ↔ found = value ∧ stop = start := by
  simp [pure, EStateM.pure, eq_comm]

theorem throw_ne_ok {reason : ε} {found : α} :
    (throw reason : EStateM ε σ α) start ≠ .ok found stop := by
  intro granted
  cases granted

end Sequence

/-! ## Fields of bits -/

namespace BitReader

theorem pass_eq_ok_iff {reader start next : BitReader} {capacity count : Nat} :
    pass capacity count reader = .ok start next ↔
      count ≤ capacity ∧ count ≤ reader.remaining.length ∧ start = reader ∧
        next = reader.advance count := by
  have reach : count ≤ reader.remaining.length ↔
      count ≤ reader.available ∧ count ≤ reader.source.left := by
    rw [length_remaining, Nat.le_min]
  rw [reach]
  constructor
  · intro granted
    unfold pass at granted
    split at granted
    · cases granted
    · split at granted
      · cases granted
      · split at granted
        · cases granted
        · cases granted
          exact ⟨by omega, ⟨by omega, by omega⟩, rfl, rfl⟩
  · rintro ⟨narrow, ⟨fits, filled⟩, rfl, rfl⟩
    exact pass_of_fits fits narrow filled

/-- The number of the first bits in front of a reader is the field at the place of its source. -/
theorem toNat_take_remaining {reader : BitReader} {count : Nat}
    (enough : count ≤ reader.remaining.length) :
    Bits.toNat (reader.remaining.take count) =
      fieldAt reader.source.data reader.source.place count := by
  have within := reader.source.within
  rw [length_remaining] at enough
  rw [remaining, List.take_take, Nat.min_eq_left enough, toNat_take_drop _ (by omega)]

theorem readField_eq_ok_iff {reader next : BitReader} {capacity count value : Nat}
    (narrow : count ≤ capacity) :
    readField capacity count reader = .ok value next ↔
      value < 2 ^ count ∧ Bits.ofNat count value <+: reader.remaining ∧
        next = reader.advance count := by
  rw [← and_assoc, Bits.ofNat_prefix_iff]
  constructor
  · intro granted
    obtain ⟨start, reached, passed, last⟩ := bind_eq_ok_iff.mp granted
    obtain ⟨-, enough, rfl, rfl⟩ := pass_eq_ok_iff.mp passed
    obtain ⟨rfl, rfl⟩ := pure_eq_ok_iff.mp last
    exact ⟨⟨enough, (toNat_take_remaining enough).symm⟩, rfl⟩
  · intro given
    obtain ⟨⟨enough, rfl⟩, rfl⟩ := given
    have passed := pass_eq_ok_iff.mpr ⟨narrow, enough, rfl, rfl⟩
    rw [toNat_take_remaining enough]
    exact bind_of_ok passed _

theorem readBit_eq_ok_iff {reader next : BitReader} {value : Bool} :
    readBit reader = .ok value next ↔
      [value] <+: reader.remaining ∧ next = reader.advance 1 := by
  -- a flag is the number of one bit
  have same : readBit reader = .ok value next ↔ readField 1 1 reader = .ok value.toNat next := by
    simp only [readBit, readField, bind_eq_ok_iff, pure_eq_ok_iff]
    have single : ∀ start : BitReader,
        value.toNat = fieldAt start.source.data start.source.place 1 ↔
          value = bitAt start.source.data start.source.place := by
      intro start
      simp only [fieldAt, Nat.add_zero]
      cases value <;> cases bitAt start.source.data start.source.place <;> simp
    simp only [single]
  have code : Bits.ofNat 1 value.toNat = [value] := by
    cases value <;> rfl
  rw [same, readField_eq_ok_iff (by omega), code]
  exact and_iff_right (Bool.toNat_lt value)

theorem skip_eq_ok_iff {reader next : BitReader} {count : Nat} {value : Unit} :
    skip count reader = .ok value next ↔
      count ≤ reader.remaining.length ∧ next = reader.advance count := by
  simp only [skip, bind_eq_ok_iff, pass_eq_ok_iff, pure_eq_ok_iff]
  constructor
  · intro given
    obtain ⟨_, _, ⟨-, enough, -, rfl⟩, -, rfl⟩ := given
    exact ⟨enough, rfl⟩
  · rintro ⟨enough, rfl⟩
    exact ⟨reader, _, ⟨Nat.le_refl count, enough, rfl, rfl⟩, trivial, rfl⟩

end BitReader

/-! ## Object types -/

namespace ObjectType

theorem bits_of_lt {code : ObjectType} (low : code < 31) : code.bits = Bits.ofNat 5 code :=
  if_pos low

theorem bits_of_ge {code : ObjectType} (high : 32 ≤ code) :
    code.bits = Bits.ofNat 5 escape ++ Bits.ofNat 6 (code - 32) := by
  have above : ¬ code < escape := Nat.not_lt.mpr (Nat.le_trans (by decide) high)
  exact if_neg above

theorem five_le_length_bits (code : ObjectType) : 5 ≤ code.bits.length := by
  unfold bits
  split <;> simp

/-- An object type is read exactly where its code is in front. -/
theorem read_eq_ok_iff {reader next : BitReader} {code : ObjectType} :
    read reader = .ok code next ↔
      code.IsCodable ∧ code.bits <+: reader.remaining ∧
        next = reader.advance code.bits.length := by
  simp only [read, bind_eq_ok_iff,
    BitReader.readField_eq_ok_iff (show 5 ≤ 8 by omega)]
  constructor
  · intro granted
    obtain ⟨short, middle, ⟨fits, front, rfl⟩, rest⟩ := granted
    by_cases escaped : short = escape
    · rw [if_pos escaped] at rest
      subst escaped
      simp only [bind_eq_ok_iff, pure_eq_ok_iff,
        BitReader.readField_eq_ok_iff (show 6 ≤ 8 by omega)] at rest
      obtain ⟨long, last, ⟨small, behind, rfl⟩, rfl, rfl⟩ := rest
      -- six bits behind the escape count from 32 on, so the type has its long code
      have high : 32 ≤ 32 + long := Nat.le_add_right 32 long
      rw [bits_of_ge high, Nat.add_sub_cancel_left, Bits.append_prefix_iff]
      refine ⟨.inr ⟨high, ?_⟩, ⟨front, by simpa using behind⟩, by simp⟩
      show 32 + long ≤ 95
      omega
    · rw [if_neg escaped, pure_eq_ok_iff] at rest
      obtain ⟨rfl, rfl⟩ := rest
      have low : code < 31 := Nat.lt_of_le_of_ne (Nat.le_of_lt_succ fits) escaped
      rw [bits_of_lt low]
      exact ⟨.inl low, front, by simp⟩
  · intro given
    obtain ⟨low | ⟨high, bounded⟩, front, rfl⟩ := given
    · rw [bits_of_lt low] at front ⊢
      have fits : code < 2 ^ 5 := Nat.lt_trans low (by decide)
      refine ⟨code, _, ⟨fits, front, rfl⟩, ?_⟩
      rw [if_neg (Nat.ne_of_lt low), pure_eq_ok_iff]
      simp
    · rw [bits_of_ge high] at front ⊢
      obtain ⟨first, behind⟩ := Bits.append_prefix_iff.mp front
      refine ⟨escape, _, ⟨by decide, first, rfl⟩, ?_⟩
      simp only [if_pos, bind_eq_ok_iff, pure_eq_ok_iff,
        BitReader.readField_eq_ok_iff (show 6 ≤ 8 by omega)]
      have small : code - 32 < 2 ^ 6 :=
        Nat.lt_of_le_of_lt (Nat.sub_le_sub_right bounded 32) (by omega)
      exact ⟨code - 32, _, ⟨small, by simpa using behind, rfl⟩,
        (Nat.add_sub_cancel' high).symm, by simp⟩

end ObjectType

/-! ## Sampling frequencies -/

namespace SamplingFrequency

theorem index_lt_of_table {index hertz : Nat} (listed : table[index]? = some hertz) :
    index < 13 := by
  have bounded := (List.getElem?_eq_some_iff.mp listed).1
  simpa [table] using bounded

/-- A sampling frequency is read exactly where its code is in front. -/
theorem read_eq_ok_iff {reader next : BitReader} {frequency : SamplingFrequency} :
    read reader = .ok frequency next ↔
      frequency.IsSignalled ∧ frequency.bits <+: reader.remaining ∧
        next = reader.advance frequency.bits.length := by
  simp only [read, bind_eq_ok_iff,
    BitReader.readField_eq_ok_iff (show 4 ≤ 8 by omega)]
  constructor
  · intro granted
    obtain ⟨index, middle, ⟨fits, front, rfl⟩, rest⟩ := granted
    by_cases written : index = explicitIndex
    · rw [if_pos written] at rest
      simp only [bind_eq_ok_iff, pure_eq_ok_iff,
        BitReader.readField_eq_ok_iff (show 24 ≤ 32 by omega)] at rest
      obtain ⟨hertz, last, ⟨small, behind, rfl⟩, rfl, rfl⟩ := rest
      refine ⟨.inr ⟨written, small⟩, ?_, ?_⟩
      · unfold bits
        rw [if_pos written, Bits.append_prefix_iff]
        exact ⟨front, by simpa using behind⟩
      · unfold bits
        rw [if_pos written]
        simp
    · rw [if_neg written] at rest
      cases listed : table[index]? with
      | none =>
          rw [listed] at rest
          exact absurd rest throw_ne_ok
      | some hertz =>
          rw [listed, pure_eq_ok_iff] at rest
          obtain ⟨rfl, rfl⟩ := rest
          refine ⟨.inl listed, ?_, ?_⟩
          · unfold bits
            rw [if_neg written, List.append_nil]
            exact front
          · unfold bits
            rw [if_neg written]
            simp
  · intro given
    -- an index of the table is below the escape, so it takes the short branch
    obtain ⟨listed | ⟨written, small⟩, front, rfl⟩ := given
    · have bounded := index_lt_of_table listed
      have plain : frequency.index ≠ explicitIndex :=
        Nat.ne_of_lt (Nat.lt_trans bounded (by decide))
      rw [bits, if_neg plain, List.append_nil] at front ⊢
      refine ⟨frequency.index, _, ⟨by omega, front, rfl⟩, ?_⟩
      rw [if_neg plain, listed, pure_eq_ok_iff]
      simp
    · rw [bits, if_pos written] at front ⊢
      obtain ⟨first, behind⟩ := Bits.append_prefix_iff.mp front
      refine ⟨frequency.index, _, ⟨by rw [written]; decide, first, rfl⟩, ?_⟩
      simp only [if_pos written, bind_eq_ok_iff, pure_eq_ok_iff,
        BitReader.readField_eq_ok_iff (show 24 ≤ 32 by omega)]
      exact ⟨frequency.hertz, _, ⟨small, by simpa using behind, rfl⟩, rfl, by simp⟩

end SamplingFrequency

end AacConfig
