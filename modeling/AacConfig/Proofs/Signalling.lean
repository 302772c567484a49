import AacConfig.DecoderMode
import AacConfig.Proofs.Grammar

/-!
# Two ways of signalling

Spectral band replication over a decoded core coder can be announced in front
of the core coder or added behind it, where older decoders pass over it. Both
ways decode to the same record and select the same decoder mode
(`Stream.Replication.signalling_agrees`).

The two codes have the same fields in another order. That each of them is a
written configuration with the same record is all that has to be seen.
-/

namespace AacConfig

theorem SamplingFrequency.four_le_length_bits (frequency : SamplingFrequency) :
    4 ≤ frequency.bits.length := by
  unfold bits
  rw [List.length_append, Bits.length_ofNat]
  exact Nat.le_add_right 4 _

namespace Stream

theorem Header.thirteen_le_length_bits (header : Header) : 13 ≤ header.bits.length := by
  have five := header.objectType.five_le_length_bits
  have four := header.frequency.four_le_length_bits
  simp only [Header.bits, List.length_append, Bits.length_ofNat]
  omega

/-- Spectral band replication over a decoded core coder, perhaps with parametric stereo. -/
structure Replication where
  /-- The object type of the core coder. -/
  core : ObjectType
  /-- The sampling frequency of the core coder. -/
  frequency : SamplingFrequency
  /-- The sampling frequency behind replication. -/
  doubled : SamplingFrequency
  /-- The channel configuration number. -/
  channels : Nat
  /-- The flags of the core coder. -/
  flags : Flags
  /-- Whether parametric stereo is used. -/
  psPresent : Bool
  isCore : IsCore core
  signalled : frequency.IsSignalled
  doubledSignalled : doubled.IsSignalled
  known : channels ≠ 0
  fits : channels < 16
  codable : flags.Codable

namespace Replication

variable (replication : Replication)

/-! ## The two codes -/

/-- The further flag of a core coder, which announces nothing. -/
def close : List Bool :=
  if replication.flags.extended then [false] else []

/-- The object type of a header that announces the replication. -/
def announcing : ObjectType :=
  if replication.psPresent then ObjectType.parametricStereo
  else ObjectType.spectralBandReplication

/-- The header of the core coder, whatever object type stands in it. -/
def header (code : ObjectType) : Header :=
  ⟨code, replication.frequency, replication.channels⟩

/-- The replication announced in front of the core coder. -/
def inFront : List Bool :=
  (replication.header replication.announcing).bits ++ replication.doubled.bits ++
    replication.core.bits ++ replication.flags.bits ++ replication.close

/-- The replication added behind the core coder, without parametric stereo. -/
def behind : List Bool :=
  (replication.header replication.core).bits ++ replication.flags.bits ++ replication.close ++
    (syncBits ObjectType.spectralBandReplication ++ true :: replication.doubled.bits)

/-- The word of parametric stereo and its flag. -/
def stereo : List Bool :=
  Bits.ofNat 11 Production.psSyncWord ++ [replication.psPresent]

/-- Bits that add the replication behind the core coder. Without parametric stereo its word
and flag may be left out, unless what follows would be taken for them. -/
inductive IsBehind : List Bool → Prop
  | marked (rest : List Bool) : IsBehind (replication.behind ++ replication.stereo ++ rest)
  | unmarked {rest : List Bool} (without : replication.psPresent = false)
      (alone : ¬ StartsPs rest) : IsBehind (replication.behind ++ rest)

/-- The record of the replication. -/
def record : DecoderConfig :=
  (replication.header replication.core).record replication.core replication.flags
    { objectType := ObjectType.spectralBandReplication
      sbrPresent := true
      psPresent := replication.psPresent
      frequency := replication.doubled }

/-! ## Both codes are written configurations with that record -/

variable {replication}

theorem closes (replication : Replication) :
    Close replication.channels replication.flags.extended replication.close false := by
  unfold close
  cases replication.flags.extended with
  | false => exact .plain replication.known
  | true => exact .extended replication.known false

theorem announces (replication : Replication) : Announces replication.announcing := by
  unfold announcing
  split
  · exact .inr rfl
  · exact .inl rfl

theorem codable_header (replication : Replication) {code : ObjectType}
    (codable : code.IsCodable) : (replication.header code).Codable :=
  ⟨codable, replication.signalled, replication.fits⟩

/-- What the header announces are the extensions of the record. -/
theorem announced_eq (replication : Replication) :
    announced replication.announcing replication.doubled = replication.record.extension := by
  have stereo : (replication.announcing == ObjectType.parametricStereo) =
      replication.psPresent := by
    unfold announcing
    cases replication.psPresent <;> rfl
  rw [announced, stereo]
  rfl

theorem written_inFront (replication : Replication) (rest : List Bool) :
    Written (replication.inFront ++ rest) replication.record := by
  have codable : replication.announcing.IsCodable := by
    rcases replication.announces with same | same
    · rw [same]
      exact .inl (by decide)
    · rw [same]
      exact .inl (by decide)
  have written : Written (replication.inFront ++ rest)
      ((replication.header replication.announcing).record replication.core replication.flags
        (announced replication.announcing replication.doubled)) :=
    .explicit (replication.codable_header codable) replication.announces
      replication.doubledSignalled replication.isCore replication.codable replication.closes
  rw [announced_eq] at written
  exact written

/-- A tail behind the core coder that signals the replication. -/
theorem written_of_tail (replication : Replication) {tail : List Bool}
    (ending : Tail tail replication.record.extension) :
    Written
      ((replication.header replication.core).bits ++ replication.flags.bits ++
        replication.close ++ tail)
      replication.record :=
  .plain (replication.codable_header replication.isCore.isCodable) replication.isCore
    replication.codable replication.closes ending

theorem written_of_isBehind {bits : List Bool} (behind : replication.IsBehind bits) :
    Written bits replication.record := by
  cases behind with
  | marked rest =>
      have ending : Tail
          (syncBits ObjectType.spectralBandReplication ++ true :: replication.doubled.bits ++
            Bits.ofNat 11 Production.psSyncWord ++ replication.psPresent :: rest)
          replication.record.extension :=
        .stereo replication.psPresent replication.doubledSignalled
      have written := replication.written_of_tail ending
      simpa [Replication.behind, stereo] using written
  | @unmarked rest without alone =>
      have ending : Tail
          (syncBits ObjectType.spectralBandReplication ++ true :: replication.doubled.bits ++ rest)
          { objectType := ObjectType.spectralBandReplication, sbrPresent := true,
            frequency := replication.doubled } :=
        .replication replication.doubledSignalled alone
      -- without parametric stereo the record has the extensions of a tail that does not mention it
      have extension : replication.record.extension =
          { objectType := ObjectType.spectralBandReplication, sbrPresent := true,
            frequency := replication.doubled } := by
        rw [record, Header.record, without]
      rw [← extension] at ending
      have written := replication.written_of_tail ending
      simpa [Replication.behind] using written

/-! ## Decoder modes -/

theorem seventeen_le_length_inFront (replication : Replication) :
    17 ≤ replication.inFront.length := by
  have thirteen := (replication.header replication.announcing).thirteen_le_length_bits
  have four := replication.doubled.four_le_length_bits
  simp only [inFront, List.length_append]
  omega

theorem seventeen_le_length_behind {bits : List Bool} (behind : replication.IsBehind bits) :
    17 ≤ bits.length := by
  have thirteen := (replication.header replication.core).thirteen_le_length_bits
  have four := replication.doubled.four_le_length_bits
  cases behind with
  | marked rest =>
      simp only [Replication.behind, List.length_append, List.length_cons, syncBits]
      omega
  | unmarked =>
      simp only [Replication.behind, List.length_append, List.length_cons]
      omega

end Replication

end Stream

/-- A configuration with more than a header selects the mode of its record. -/
theorem DecoderMode.ofBytes_of_decode {data : List UInt8} {config : DecoderConfig}
    (long : 17 ≤ (Bits.ofBytes data).length) (decoded : DecoderConfig.decode data = .ok config) :
    ofBytes data = .ok (ofConfig config) := by
  rw [Bits.length_ofBytes] at long
  have more : ¬ data.length ≤ headerBytes := by
    rw [headerBytes]
    omega
  rw [DecoderConfig.decode, DecoderConfig.overwrite] at decoded
  simp only [ofBytes, select, selectAt, if_neg more, decoded]

namespace Stream.Replication

/-- The mode that the replication selects. -/
def mode (replication : Replication) : DecoderMode where
  profile := if replication.psPresent then .heAacV2 else .heAac
  packetsPerConversion := 2048
  config := some replication.record

theorem ofConfig_record (replication : Replication) :
    DecoderMode.ofConfig replication.record = replication.mode := rfl

/-- Announced in front of the core coder or added behind it, and whatever bits follow, the
replication is decoded to the same record and selects the same mode. -/
theorem signalling_agrees (replication : Replication) (first second : List UInt8)
    (inFront : replication.inFront <+: Bits.ofBytes first)
    (behind : replication.IsBehind (Bits.ofBytes second)) :
    DecoderConfig.decode first = .ok replication.record ∧
    DecoderConfig.decode second = .ok replication.record ∧
    DecoderMode.ofBytes first = .ok replication.mode ∧
    DecoderMode.ofBytes second = .ok replication.mode := by
  have firstDecoded : DecoderConfig.decode first = .ok replication.record := by
    obtain ⟨rest, split⟩ := inFront
    refine DecoderConfig.decode_of_written ?_
    rw [← split]
    exact replication.written_inFront rest
  have secondDecoded : DecoderConfig.decode second = .ok replication.record :=
    DecoderConfig.decode_of_written (written_of_isBehind behind)
  -- neither code fits in the two bytes that are not decoded for a mode
  have firstLong := Nat.le_trans replication.seventeen_le_length_inFront inFront.length_le
  have secondLong := seventeen_le_length_behind behind
  rw [← replication.ofConfig_record]
  exact ⟨firstDecoded, secondDecoded, DecoderMode.ofBytes_of_decode firstLong firstDecoded,
    DecoderMode.ofBytes_of_decode secondLong secondDecoded⟩

/-- Parametric stereo over one channel of AAC LC. -/
def monoStereo : Replication where
  core := ObjectType.aacLowComplexity
  frequency := ⟨7, 22050⟩
  doubled := ⟨4, 44100⟩
  channels := 1
  flags := { frameLength := false, delay := none, extended := false }
  psPresent := true
  isCore := .inr rfl
  signalled := .inl rfl
  doubledSignalled := .inl rfl
  known := by omega
  fits := by omega
  codable := nofun

theorem signalling_agrees_monoStereo :
    DecoderConfig.decode [0xEB, 0x8A, 0x08, 0x00] =
      DecoderConfig.decode [0x13, 0x88, 0x56, 0xE5, 0xA5, 0x48, 0x80] ∧
    DecoderMode.ofBytes [0xEB, 0x8A, 0x08, 0x00] =
      DecoderMode.ofBytes [0x13, 0x88, 0x56, 0xE5, 0xA5, 0x48, 0x80] ∧
    DecoderMode.ofBytes [0xEB, 0x8A, 0x08, 0x00] = .ok monoStereo.mode := by
  have inFront : monoStereo.inFront <+: Bits.ofBytes [0xEB, 0x8A, 0x08, 0x00] := by decide
  have split : Bits.ofBytes [0x13, 0x88, 0x56, 0xE5, 0xA5, 0x48, 0x80] =
      monoStereo.behind ++ monoStereo.stereo ++ List.replicate 7 false := by decide
  have behind : monoStereo.IsBehind (Bits.ofBytes [0x13, 0x88, 0x56, 0xE5, 0xA5, 0x48, 0x80]) :=
    split ▸ .marked _
  obtain ⟨first, second, firstMode, secondMode⟩ :=
    signalling_agrees monoStereo _ _ inFront behind
  exact ⟨first.trans second.symm, firstMode.trans secondMode.symm, firstMode⟩

end Stream.Replication

end AacConfig
