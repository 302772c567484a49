import AacConfig.Proofs.Signalling

/-!
# Modes of decoded byte strings

The mode of a byte string that is decoded is the mode of its record, although
short byte strings are not decoded for it
(`DecoderMode.ofBytesOrPlain_of_decode`): replication does not fit into fewer
than 25 bits, in front of the core coder or behind it, and the bytes that are
not decoded have sixteen. So the mode of every byte string is the one that its
decoding signals (`DecoderMode.ofBytesOrPlain_signalled`).
-/

namespace AacConfig

namespace Stream

theorem Flags.three_le_length_bits (flags : Flags) : 3 ≤ flags.bits.length := by
  obtain ⟨frameLength, delay, extended⟩ := flags
  cases delay <;> simp [Flags.bits]

/-- Extensions that a decoder has to be set up for. -/
def Replicates (extension : Extension) : Prop :=
  extension.sbrPresent ∨ extension.psPresent

theorem not_replicates_of_objectType (code : ObjectType) :
    ¬ Replicates { objectType := code } := by
  rintro (sbr | ps)
  · cases sbr
  · cases ps

/-- Replication in a tail has a flag and a frequency behind its object type. -/
theorem Tail.nine_le_length {bits : List Bool} {extension : Extension}
    (tail : Tail bits extension) (replicates : Replicates extension) : 9 ≤ bits.length := by
  cases tail with
  | short => exact absurd replicates (not_replicates_of_objectType 0)
  | foreign => exact absurd replicates (not_replicates_of_objectType 0)
  | unknown => exact absurd replicates (not_replicates_of_objectType _)
  | absent => exact absurd replicates (not_replicates_of_objectType _)
  | slicedAlone => exact absurd replicates (not_replicates_of_objectType _)
  | replication | stereo | sliced =>
      simp only [syncBits, List.length_append, Bits.length_ofNat]
      omega

/-- Replication takes 25 bits at least, wherever it is signalled. -/
theorem Written.twentyFive_le_length {bits : List Bool} {config : DecoderConfig}
    (written : Written bits config) (replicates : Replicates config.extension) :
    25 ≤ bits.length := by
  cases written with
  | undecoded => exact absurd replicates (not_replicates_of_objectType 0)
  | @plain header flags close tail extension codable core delay closing behind =>
      have thirteen := header.thirteen_le_length_bits
      have three := flags.three_le_length_bits
      have nine := behind.nine_le_length replicates
      simp only [List.length_append]
      omega
  | @explicit header frequency core flags close rest ignored codable extended signalled isCore
      delay closing =>
      have thirteen := header.thirteen_le_length_bits
      have four := frequency.four_le_length_bits
      have five := core.five_le_length_bits
      have three := flags.three_le_length_bits
      simp only [List.length_append]
      omega

end Stream

namespace DecoderMode

variable {data : List UInt8} {config : DecoderConfig}

theorem ofConfig_of_not_replicates (plain : ¬ Stream.Replicates config.extension) :
    ofConfig config = { config := some config } := by
  obtain ⟨noSbr, noPs⟩ := not_or.mp plain
  simp [ofConfig, noSbr, noPs]

theorem ofBytesOrPlain_of_le (short : data.length ≤ headerBytes) : ofBytesOrPlain data = {} := by
  simp only [ofBytesOrPlain, selectOrPlain, selectOrPlainAt, selectAt, if_pos short]

theorem ofBytesOrPlain_of_ofBytes {mode : DecoderMode} (selected : ofBytes data = .ok mode) :
    ofBytesOrPlain data = mode := by
  unfold ofBytes select at selected
  unfold ofBytesOrPlain selectOrPlain selectOrPlainAt
  generalize selectAt .trace data = outcome at selected
  obtain ⟨found, events⟩ := outcome
  rw [show found = .ok mode from selected]

/-- Bytes that are not decoded for a mode have no room for what a mode says. -/
theorem ofBytesOrPlain_of_decode (decoded : DecoderConfig.decode data = .ok config) :
    (ofBytesOrPlain data).profile = (ofConfig config).profile ∧
      (ofBytesOrPlain data).packetsPerConversion = (ofConfig config).packetsPerConversion := by
  by_cases short : data.length ≤ headerBytes
  -- two bytes have 16 bits and replication takes 25, so the mode that is not looked for is plain
  · have plain : ¬ Stream.Replicates config.extension := by
      intro replicates
      have long := (DecoderConfig.written_of_decode decoded).twentyFive_le_length replicates
      rw [headerBytes] at short
      rw [Bits.length_ofBytes] at long
      omega
    rw [ofBytesOrPlain_of_le short, ofConfig_of_not_replicates plain]
    exact ⟨rfl, rfl⟩
  · have long : 17 ≤ (Bits.ofBytes data).length := by
      rw [headerBytes] at short
      rw [Bits.length_ofBytes]
      omega
    rw [ofBytesOrPlain_of_ofBytes (ofBytes_of_decode long decoded)]
    exact ⟨rfl, rfl⟩

/-! ## The mode of any byte string -/

theorem ofBytes_of_le (short : data.length ≤ headerBytes) : ofBytes data = .ok {} := by
  simp only [ofBytes, select, selectAt, if_pos short]

theorem ofBytes_of_lt (long : headerBytes < data.length) :
    ofBytes data = (DecoderConfig.decode data).map ofConfig := by
  simp only [ofBytes, select, selectAt, if_neg (Nat.not_le.mpr long), DecoderConfig.decode,
    DecoderConfig.overwrite]
  cases (DecoderConfig.overwriteAt .trace {} data).result with
  | ok config => rfl
  | error reason => rfl

theorem ofBytesOrPlain_eq (data : List UInt8) :
    ofBytesOrPlain data =
      match ofBytes data with
      | .ok mode => mode
      | .error _ => {} := by
  unfold ofBytesOrPlain selectOrPlain selectOrPlainAt ofBytes select
  obtain ⟨mode | reason, events⟩ := selectAt .trace data
  · rfl
  · rfl

theorem ofBytesOrPlain_of_refused {reason : DecodeError}
    (refused : DecoderConfig.decode data = .error reason) : ofBytesOrPlain data = {} := by
  rcases Nat.lt_or_ge headerBytes data.length with long | short
  · rw [ofBytesOrPlain_eq, ofBytes_of_lt long, refused]
    rfl
  · exact ofBytesOrPlain_of_le short

/-- The profile and the number of frames of a conversion that a result of decoding signals. -/
def signalled : Except DecodeError DecoderConfig → Profile × Nat
  | .ok config =>
      if config.extension.psPresent then (.heAacV2, 2048)
      else if config.extension.sbrPresent then (.heAac, 2048)
      else (.aac, 1024)
  | .error _ => (.aac, 1024)

theorem ofConfig_signalled (config : DecoderConfig) :
    ((ofConfig config).profile, (ofConfig config).packetsPerConversion) =
      signalled (.ok config) := by
  simp only [signalled, ofConfig]
  by_cases ps : config.extension.psPresent
  · simp [ps]
  · by_cases sbr : config.extension.sbrPresent
    · simp [ps, sbr]
    · simp [ps, sbr]

/-- Only replication is played as anything but plain AAC, and it takes four bytes. -/
theorem four_le_length_of_profile (extended : (ofBytesOrPlain data).profile ≠ .aac) :
    4 ≤ data.length := by
  cases decoded : DecoderConfig.decode data with
  | error reason =>
      rw [ofBytesOrPlain_of_refused decoded] at extended
      exact absurd rfl extended
  | ok config =>
      rw [(ofBytesOrPlain_of_decode decoded).1] at extended
      by_cases replicates : Stream.Replicates config.extension
      · have long := (DecoderConfig.written_of_decode decoded).twentyFive_le_length replicates
        rw [Bits.length_ofBytes] at long
        omega
      · rw [ofConfig_of_not_replicates replicates] at extended
        exact absurd rfl extended

theorem config_ofBytesOrPlain_iff :
    (ofBytesOrPlain data).config = some config ↔
      2 < data.length ∧ DecoderConfig.decode data = .ok config := by
  -- a short byte string has a mode without a record, whether it decodes or not
  rcases Nat.lt_or_ge headerBytes data.length with long | short
  · rw [ofBytesOrPlain_eq, ofBytes_of_lt long, and_iff_right (by exact long)]
    cases DecoderConfig.decode data with
    | ok found => simp [Except.map, ofConfig]
    | error reason => simp [Except.map]
  · rw [ofBytesOrPlain_of_le short]
    exact ⟨nofun, fun given => absurd given.1 (Nat.not_lt.mpr short)⟩

/-- The mode of a byte string is the one that its decoding signals, although byte strings of at
most two bytes are not decoded for it. Anything but plain AAC takes four bytes. The mode carries
the record of every other byte string that is decoded, and it is plain AAC where the selection is
refused. -/
theorem ofBytesOrPlain_signalled (data : List UInt8) :
    ((ofBytesOrPlain data).profile, (ofBytesOrPlain data).packetsPerConversion) =
      signalled (DecoderConfig.decode data) ∧
    ((ofBytesOrPlain data).profile ≠ .aac → 4 ≤ data.length) ∧
    (∀ config, (ofBytesOrPlain data).config = some config ↔
      2 < data.length ∧ DecoderConfig.decode data = .ok config) ∧
    ofBytesOrPlain data =
      match ofBytes data with
      | .ok mode => mode
      | .error _ => {} := by
  refine ⟨?_, four_le_length_of_profile, fun _ => config_ofBytesOrPlain_iff,
    ofBytesOrPlain_eq data⟩
  cases decoded : DecoderConfig.decode data with
  | ok config =>
      obtain ⟨profile, packets⟩ := ofBytesOrPlain_of_decode decoded
      rw [profile, packets, ofConfig_signalled]
  | error reason =>
      rw [ofBytesOrPlain_of_refused decoded]
      rfl

/-- Two bytes of plain AAC, which are not decoded, and four bytes with both extensions. -/
theorem ofBytesOrPlain_signalled_plainStereo :
    ((ofBytesOrPlain [0x12, 0x10]).profile, (ofBytesOrPlain [0x12, 0x10]).packetsPerConversion) =
      signalled (DecoderConfig.decode [0x12, 0x10]) ∧
    (ofBytesOrPlain [0xEB, 0x8A, 0x08, 0x00]).profile ≠ .aac ∧
    4 ≤ [0xEB, 0x8A, 0x08, 0x00].length :=
  ⟨(ofBytesOrPlain_signalled [0x12, 0x10]).1, by decide,
    (ofBytesOrPlain_signalled [0xEB, 0x8A, 0x08, 0x00]).2.1 (by decide)⟩

end DecoderMode

end AacConfig
