import AacConfig.Proofs.Continuation
import AacConfig.Proofs.Mode

/-!
# Zero padding

Zero bytes behind a configuration change nothing that a decoder is set up by:
at most the object type of extensions that are not there
(`DecoderConfig.decode_padded`).

Bits that were left over may be enough to be looked at, once zeros are behind
them. The last bit of the word in front of extensions is set, so no padding
completes that word. It may complete an object type, but the last bit of that
type is then a zero: the type is even, and so neither spectral band
replication nor the escape. Bit sliced coding is even, and finds its flag and
its four bits among the zeros. The word of parametric stereo ends in zeros and
may be completed too, and then finds its flag not set.
-/

namespace AacConfig

namespace Bits

theorem ofBytes_replicate_zero (count : Nat) :
    ofBytes (List.replicate count 0) = List.replicate (8 * count) false := by
  induction count with
  | zero => rfl
  | succ count ih =>
      have zero : ofByte 0 = List.replicate 8 false := by decide
      rw [List.replicate_succ, ofBytes_cons, ih, zero, List.replicate_append_replicate,
        Nat.mul_succ, Nat.add_comm]

theorem toNat_append_false (bits : List Bool) : toNat (bits ++ [false]) = 2 * toNat bits := by
  simp [toNat_append, toNat_cons, Nat.mul_comm]

/-- What is read behind some bits, where only padding is, is a zero. -/
theorem eq_false_of_padded {bits : List Bool} {count index : Nat} {bit : Bool}
    (behind : bits.length ≤ index)
    (read : (bits ++ List.replicate count false)[index]? = some bit) : bit = false := by
  rw [List.getElem?_append_right behind, List.getElem?_replicate] at read
  split at read
  · exact (Option.some.inj read).symm
  · cases read

end Bits

namespace Stream

/-! ## Padded tails -/

/-- Parametric stereo whose word is completed by zeros is not used. -/
theorem CompletesPs.eq_false {bits : List Bool} {count : Nat} {psPresent : Bool}
    (completes : CompletesPs bits (List.replicate count false) psPresent) : psPresent = false := by
  obtain ⟨rest, split⟩ := completes.completed
  have read : (bits ++ List.replicate count false)[11]? = some psPresent := by
    rw [split]
    rfl
  exact Bits.eq_false_of_padded (Nat.le_of_lt_succ completes.few) read

/-- Zeros do not complete the word in front of extensions. -/
theorem eleven_le_length_of_padded {bits : List Bool} {count : Nat}
    (starts : (bits ++ List.replicate count false).take 11 =
      Bits.ofNat 11 Production.sbrSyncWord) : 11 ≤ bits.length := by
  rw [← Nat.not_lt]
  intro few
  have last : (bits ++ List.replicate count false)[10]? = some true := by
    rw [← List.getElem?_take_of_lt (show 10 < 11 by omega), starts]
    rfl
  exact Bool.noConfusion (Bits.eq_false_of_padded (Nat.le_of_lt_succ few) last)

/-- Fewer than five bits and zeros behind them are an even object type below the escape. Where
it is that of bit sliced coding, only the last of its bits is padding. -/
theorem exists_code_of_padded {bits : List Bool} {count : Nat} (few : bits.length ≤ 4)
    (enough : 8 ≤ count) :
    ∃ (code : ObjectType) (zeros : Nat),
      bits ++ List.replicate count false = code.bits ++ List.replicate zeros false ∧
        code < 31 ∧ code % 2 = 0 ∧ (code = ObjectType.resilientBitSliced → 5 ≤ zeros) := by
  have filled : ∀ width, bits.length < width → bits ++ List.replicate (width - bits.length) false =
      bits ++ List.replicate (width - 1 - bits.length) false ++ [false] := by
    intro width short
    rw [List.append_assoc, List.append_cancel_left_eq, ← List.replicate_succ']
    congr 1
    omega
  -- four bits of the type, perhaps with padding among them, and a fifth that is padding
  let front := bits ++ List.replicate (4 - bits.length) false
  have four : front.length = 4 := by
    simp only [front, List.length_append, List.length_replicate]
    omega
  have code : Bits.ofNat 5 (2 * Bits.toNat front) = front ++ [false] := by
    have same := Bits.ofNat_toNat (front ++ [false])
    rwa [Bits.toNat_append_false, List.length_append, four] at same
  have small := Bits.toNat_lt front
  rw [four] at small
  have low : 2 * Bits.toNat front < 31 := by omega
  refine ⟨2 * Bits.toNat front, count - (5 - bits.length), ?_, low, Nat.mul_mod_right 2 _, ?_⟩
  · rw [ObjectType.bits_of_lt low, code, ← filled 5 (by omega), List.append_assoc,
      List.replicate_append_replicate]
    congr 2
    omega
  · intro sliced
    -- with more padding in it the code would be a multiple of four
    rcases Nat.lt_or_eq_of_le few with short | full
    · have even : Bits.toNat front =
          2 * Bits.toNat (bits ++ List.replicate (4 - 1 - bits.length) false) := by
        rw [← Bits.toNat_append_false, ← filled 4 short]
      have twice : 2 * Bits.toNat front = 22 := sliced
      omega
    · omega

/-- Too few bits to be looked at signal at most an object type, with zeros behind them. -/
theorem Tail.pad_of_short {bits : List Bool} (few : bits.length < Production.syncExtensionWidth)
    {count : Nat} (enough : 8 ≤ count) :
    ∃ code, Tail (bits ++ List.replicate count false) { objectType := code } := by
  by_cases many : Production.syncExtensionWidth ≤ (bits ++ List.replicate count false).length
  · by_cases starts : (bits ++ List.replicate count false).take 11 =
        Bits.ofNat 11 Production.sbrSyncWord
    · have word := eleven_le_length_of_padded starts
      rw [List.take_append_of_le_length word] at starts
      have left : (bits.drop 11).length ≤ 4 := by
        rw [Production.syncExtensionWidth] at few
        rw [List.length_drop]
        omega
      obtain ⟨code, zeros, split, low, even, room⟩ := exists_code_of_padded left enough
      have same : bits ++ List.replicate count false =
          syncBits code ++ List.replicate zeros false := by
        rw [syncBits, List.append_assoc, ← split, ← starts, ← List.append_assoc,
          List.take_append_drop]
      refine ⟨code, ?_⟩
      rw [same]
      by_cases sliced : code = ObjectType.resilientBitSliced
      · obtain ⟨further, rfl⟩ := Nat.exists_eq_add_of_le (room sliced)
        have four : (List.replicate 4 false).length = 4 := rfl
        rw [sliced, ← List.replicate_append_replicate, ← List.append_assoc]
        exact .slicedAlone four
      · refine .unknown (.inl low) ?_ sliced
        rintro rfl
        cases even
    · exact ⟨0, .foreign many starts⟩
  · exact ⟨0, .short (Nat.not_le.mp many)⟩

/-- Zero bytes behind a tail change at most the object type of its extensions. -/
theorem Tail.pad {bits : List Bool} {extension : Extension} (tail : Tail bits extension)
    (count : Nat) :
    ∃ code, Tail (bits ++ List.replicate (8 * count) false)
      { extension with objectType := code } := by
  -- a tail that was long enough is not looked at again; a short one is now
  by_cases few : bits.length < Production.syncExtensionWidth
  · rw [tail_eq_default tail few]
    cases count with
    | zero =>
        refine ⟨0, ?_⟩
        rw [Nat.mul_zero, List.replicate_zero, List.append_nil]
        exact .short few
    | succ count => exact Tail.pad_of_short few (by omega)
  · refine ⟨extension.objectType, ?_⟩
    rcases tail.append (Nat.not_lt.mp few) (List.replicate (8 * count) false) with
      same | ⟨without, _, _, psPresent, -, -, completes, grown⟩
    · exact same
    · have same : { extension with psPresent } = extension := by
        rw [completes.eq_false, ← without]
      rwa [same] at grown

/-- Zero bytes behind a configuration change at most the object type of its extensions. -/
theorem Written.pad {bits : List Bool} {config : DecoderConfig} (written : Written bits config)
    (count : Nat) :
    ∃ code, Written (bits ++ List.replicate (8 * count) false)
      { config with extension := { config.extension with objectType := code } } := by
  rcases written.front_or_ignored with ignored | ⟨front, tail, rfl, -, behind, rewritten⟩
  · exact ⟨config.extension.objectType, ignored _⟩
  · obtain ⟨code, padded⟩ := behind.pad count
    refine ⟨code, ?_⟩
    rw [List.append_assoc]
    exact rewritten padded

end Stream

namespace DecoderConfig

/-- Zero bytes behind a byte string that is decoded change nothing in its record but, at most, the
object type of the extensions, and nothing in the mode that a decoder is set up for. -/
theorem decode_padded {data : List UInt8} {config : DecoderConfig}
    (decoded : decode data = .ok config) (count : Nat) :
    (∃ code, decode (data ++ List.replicate count 0) =
      .ok { config with extension := { config.extension with objectType := code } }) ∧
    (DecoderMode.ofBytesOrPlain (data ++ List.replicate count 0)).profile =
      (DecoderMode.ofBytesOrPlain data).profile ∧
    (DecoderMode.ofBytesOrPlain (data ++ List.replicate count 0)).packetsPerConversion =
      (DecoderMode.ofBytesOrPlain data).packetsPerConversion := by
  obtain ⟨code, padded⟩ := (written_of_decode decoded).pad count
  rw [← Bits.ofBytes_replicate_zero, ← Bits.ofBytes_append] at padded
  have again := decode_of_written padded
  obtain ⟨profile, packets⟩ := DecoderMode.ofBytesOrPlain_of_decode decoded
  obtain ⟨paddedProfile, paddedPackets⟩ := DecoderMode.ofBytesOrPlain_of_decode again
  rw [profile, packets, paddedProfile, paddedPackets]
  exact ⟨⟨code, again⟩, rfl, rfl⟩

/-- AAC LC on two channels. -/
def plainStereo : DecoderConfig where
  objectType := ObjectType.aacLowComplexity
  frequency := ⟨4, 44100⟩
  layout := .stereo
  channelCount := 2

theorem decode_padded_plainStereo :
    decode [0x12, 0x11, 0x2B, 0x7B] = .ok plainStereo ∧
    decode ([0x12, 0x11, 0x2B, 0x7B] ++ List.replicate 1 0) = .ok
      { plainStereo with extension := { objectType := ObjectType.resilientBitSliced } } ∧
    (DecoderMode.ofBytesOrPlain ([0x12, 0x11, 0x2B, 0x7B] ++ List.replicate 1 0)).profile =
      (DecoderMode.ofBytesOrPlain [0x12, 0x11, 0x2B, 0x7B]).profile :=
  ⟨rfl, rfl, (@decode_padded [0x12, 0x11, 0x2B, 0x7B] plainStereo rfl 1).2.1⟩

end DecoderConfig

end AacConfig
