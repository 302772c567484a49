import AacConfig.Proofs.Tail

/-!
# Bits behind a configuration

What becomes of a written configuration when more bits are put behind it. All
of it that is not a tail stays what it is, whatever follows
(`Stream.Written.front_or_ignored`), and so does a tail that was long enough
to be looked at, with one exception: the word of parametric stereo is looked
for in what is left behind spectral band replication, and may be complete only
with the bits put there (`Stream.Tail.append`).

The lengths of codes say how long the bits in front of a tail and in front of
parametric stereo can be.
-/

namespace AacConfig

/-! ## Lengths of codes -/

theorem ObjectType.length_bits_of_lt {code : ObjectType} (low : code < 31) :
    code.bits.length = 5 := by
  rw [bits_of_lt low, Bits.length_ofNat]

theorem ObjectType.length_bits_le (code : ObjectType) : code.bits.length ≤ 11 := by
  unfold bits
  split <;> simp

theorem SamplingFrequency.length_bits_le (frequency : SamplingFrequency) :
    frequency.bits.length ≤ 28 := by
  unfold bits
  split <;> simp

namespace Stream

theorem IsCore.lt {code : ObjectType} (core : IsCore code) : code < 31 := by
  rcases core with rfl | rfl <;> decide

theorem Announces.lt {code : ObjectType} (announces : Announces code) : code < 31 := by
  rcases announces with rfl | rfl <;> decide

theorem Header.length_bits_le {header : Header} (low : header.objectType < 31) :
    header.bits.length ≤ 37 := by
  have frequency := header.frequency.length_bits_le
  simp only [Header.bits, List.length_append, ObjectType.length_bits_of_lt low,
    Bits.length_ofNat]
  omega

theorem Announcement.Codable.length_bits_le {announcement : Announcement}
    (codable : announcement.Codable) (core : IsCore announcement.core) :
    announcement.bits.length ≤ 33 := by
  have frequency := announcement.frequency.length_bits_le
  have channels := codable.channels
  rw [if_neg core.not_sliced] at channels
  simp only [Announcement.bits, List.length_append, ObjectType.length_bits_of_lt core.lt, channels]
  omega

theorem Flags.length_bits_le (flags : Flags) : flags.bits.length ≤ 17 := by
  obtain ⟨frameLength, delay, extended⟩ := flags
  cases delay <;> simp [Flags.bits]

theorem Close.length_le {channels : Nat} {extended undecoded : Bool} {bits : List Bool}
    (closing : Close channels extended bits undecoded) : bits.length ≤ 1 := by
  cases closing <;> simp

/-! ## Tails -/

theorem length_syncBits_of_lt {code : ObjectType} (low : code < 31) :
    (syncBits code).length = 16 := by
  rw [syncBits, List.length_append, Bits.length_ofNat, ObjectType.length_bits_of_lt low]

/-- Bits that are too few for parametric stereo start with it once more are behind them. -/
structure CompletesPs (bits more : List Bool) (psPresent : Bool) : Prop where
  few : bits.length < Production.psExtensionWidth
  completed : ∃ rest, bits ++ more = Bits.ofNat 11 Production.psSyncWord ++ psPresent :: rest

/-- More bits behind a tail that was looked at complete at most the word of parametric stereo. -/
theorem Tail.append {bits : List Bool} {extension : Extension} (tail : Tail bits extension)
    (many : Production.syncExtensionWidth ≤ bits.length) (more : List Bool) :
    Tail (bits ++ more) extension ∨
      extension.psPresent = false ∧ ∃ front rest psPresent, bits = front ++ rest ∧
        front.length ≤ 45 ∧ CompletesPs rest more psPresent ∧
        Tail (bits ++ more) { extension with psPresent } := by
  -- only replication without parametric stereo can change: its fields end where the word of the
  -- latter may still start
  cases tail with
  | short few => exact absurd many (Nat.not_le.mpr few)
  | foreign _ other =>
      refine .inl (.foreign ?_ ?_)
      · exact Nat.le_trans many (List.prefix_append bits more).length_le
      · rwa [List.take_append_of_le_length (Nat.le_trans (by decide) many)]
  | unknown codable notSbr notBitSliced =>
      rw [List.append_assoc]
      exact .inl (.unknown codable notSbr notBitSliced)
  | absent =>
      rw [List.append_assoc]
      exact .inl .absent
  | @replication frequency rest signalled alone =>
      by_cases starts : StartsPs (rest ++ more)
      · obtain ⟨psPresent, behind, split⟩ := startsPs_iff.mp starts
        refine .inr ⟨rfl, _, rest, psPresent, rfl, ?_, ⟨?_, behind, split⟩, ?_⟩
        · have width := frequency.length_bits_le
          have word := length_syncBits_of_lt
            (show ObjectType.spectralBandReplication < 31 by decide)
          simp only [List.length_append, List.length_cons, word]
          omega
        · -- in twelve bits the word would have been complete before
          rw [← Nat.not_le]
          intro enough
          refine alone ⟨enough, ?_⟩
          rw [← starts.2, List.take_append_of_le_length (Nat.le_trans (by decide) enough)]
        · rw [List.append_assoc, split, ← List.append_assoc]
          exact .stereo psPresent signalled
      · rw [List.append_assoc]
        exact .inl (.replication signalled starts)
  | stereo psPresent signalled =>
      rw [List.append_assoc]
      exact .inl (.stereo psPresent signalled)
  | slicedAlone four =>
      rw [List.append_assoc]
      exact .inl (.slicedAlone four)
  | sliced signalled four =>
      rw [List.append_assoc]
      exact .inl (.sliced signalled four)

/-! ## Configurations -/

/-- Whatever follows a configuration is ignored, or belongs to its tail, which stands behind at
most 55 bits and decides about the extensions alone. -/
theorem Written.front_or_ignored {bits : List Bool} {config : DecoderConfig}
    (written : Written bits config) :
    (∀ more, Written (bits ++ more) config) ∨
      ∃ front tail, bits = front ++ tail ∧ front.length ≤ 55 ∧ Tail tail config.extension ∧
        ∀ {other : List Bool} {extension : Extension}, Tail other extension →
          Written (front ++ other) { config with extension } := by
  cases written with
  | undecoded codable core delay closing =>
      refine .inl fun more => ?_
      rw [List.append_assoc]
      exact .undecoded codable core delay closing
  -- extensions are looked for at the end only if none stand in front of the core coder
  | @plain header flags close tail extension codable core delay closing behind =>
      refine .inr ⟨header.bits ++ flags.bits ++ close, tail, rfl, ?_, behind, ?_⟩
      · have headerWidth := Header.length_bits_le (show header.objectType < 31 from core.lt)
        have flagsWidth := flags.length_bits_le
        have closeWidth := closing.length_le
        simp only [List.length_append]
        omega
      · intro other extension ending
        exact .plain codable core delay closing ending
  | explicit codable extended signalled isCore delay closing =>
      refine .inl fun more => ?_
      rw [List.append_assoc]
      exact .explicit codable extended signalled isCore delay closing

end Stream

end AacConfig
