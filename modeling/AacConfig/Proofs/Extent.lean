import AacConfig.Proofs.Accounts
import AacConfig.Proofs.Growth

/-!
# The extent of a configuration

Fourteen bytes decide about a configuration: they are never too short, and
whatever stands behind them changes neither the refusal nor the record
(`DecoderConfig.overwrite_append_of_extent`). A configuration that uses every
optional field, with both frequencies written out, has exactly 112 bits, so
thirteen bytes do not decide.

A refusal stays because the bits did not run out. A granted configuration
stays because its tail has 57 bits or more, and in as many parametric stereo
is looked for with all of its bits there.
-/

namespace AacConfig

/-- The number of bytes that decide about a configuration. -/
def DecoderConfig.extent : Nat := 14

/-- What follows the bytes that decide is ignored. -/
theorem Stream.Written.append_of_extent {bits : List Bool} {config : DecoderConfig}
    (written : Stream.Written bits config) (long : 8 * DecoderConfig.extent ≤ bits.length)
    (more : List Bool) : Stream.Written (bits ++ more) config := by
  rw [DecoderConfig.extent] at long
  rcases written.front_or_ignored with ignored | ⟨front, tail, rfl, short, behind, rewritten⟩
  · exact ignored more
  · rw [List.length_append] at long
    have many : Production.syncExtensionWidth ≤ tail.length := by
      rw [Production.syncExtensionWidth]
      omega
    rcases behind.append many more with same | ⟨-, leading, rest, _, rfl, width, completes, -⟩
    · rw [List.append_assoc]
      exact rewritten same
    · -- too few bits for parametric stereo leave no more than 56 for the tail
      have few := completes.few
      rw [Production.psExtensionWidth] at few
      rw [List.length_append] at long
      omega

namespace DecoderConfig

/-- Nothing of the record is kept that is decoded over. -/
theorem overwrite_eq_overwrite_default (prior : DecoderConfig) (data : List UInt8) :
    overwrite prior data = overwrite {} data := rfl

section Extent

variable {data : List UInt8}

theorem whole_ne_truncated_of_extent (long : extent ≤ data.length) {prior : DecoderConfig}
    {needed position available : Nat} {stop : DecodeState} :
    Production.whole (.start prior data) ≠ .error (.truncated needed position available) stop := by
  refine (Production.Accounts.whole (DecodeState.covered_start prior data)).ne_truncated ?_
  rw [extent] at long
  show 112 ≤ 8 * data.length
  omega

/-- What follows the bytes that decide changes neither the refusal nor the record. -/
theorem overwrite_append (long : extent ≤ data.length) (more : List UInt8) :
    (overwrite {} (data ++ more)).refusal = (overwrite {} data).refusal ∧
      (overwrite {} (data ++ more)).config = (overwrite {} data).config := by
  rw [overwrite_eq, overwrite_eq]
  unfold Production.attempt
  cases found : Production.whole (.start {} data) with
  | ok _ stop =>
      -- a granted run is told by the bits alone, and more bits behind them spell the same record
      have written := Production.written_of_whole_leaves (DecodeState.covered_start {} data)
        ⟨stop, found, rfl⟩
      rw [DecodeState.remaining_start] at written
      have enough : 8 * extent ≤ (Bits.ofBytes data).length := by
        rw [Bits.length_ofBytes]
        omega
      have grown := written.append_of_extent enough (Bits.ofBytes more)
      rw [← Bits.ofBytes_append] at grown
      obtain ⟨reached, same, recorded⟩ :=
        Production.whole_leaves_of_written (DecodeState.covered_start {} (data ++ more))
          (DecodeState.remaining_start {} (data ++ more)) grown
      rw [same]
      exact ⟨rfl, recorded⟩
  | error reason stop =>
      have lasting : reason.isTruncated = false := by
        cases reason with
        | truncated => exact absurd found (whole_ne_truncated_of_extent long)
        | reservedFrequencyIndex index => rfl
        | unsupported feature => rfl
      -- a refusal that is none for a lack of bits was reached before they ended
      obtain ⟨reached, same, behind⟩ :=
        Production.Guarded.whole.keepsRefusals (.start {} data more) found lasting
      rw [same]
      exact ⟨rfl, behind.config⟩

end Extent

/-- Fourteen bytes or more are never too short, and what stands behind the first fourteen changes
neither why the byte string is refused nor the record that is left behind, whatever records were
decoded over. -/
theorem overwrite_append_of_extent (prior other : DecoderConfig) (data more : List UInt8)
    (long : extent ≤ data.length) :
    (∀ needed position available,
      decode data ≠ .error (.truncated needed position available)) ∧
    (overwrite prior (data ++ more)).refusal = (overwrite other (data.take extent)).refusal ∧
    (overwrite prior (data ++ more)).config = (overwrite other (data.take extent)).config := by
  refine ⟨?_, ?_⟩
  · intro needed position available truncated
    obtain ⟨stop, refused⟩ := decode_eq_error_iff.mp truncated
    exact whole_ne_truncated_of_extent long refused
  · have enough : extent ≤ (data.take extent).length := by
      rw [List.length_take]
      exact Nat.le_min.mpr ⟨Nat.le_refl extent, long⟩
    have split : data ++ more = data.take extent ++ (data.drop extent ++ more) := by
      rw [← List.append_assoc, List.take_append_drop]
    rw [overwrite_eq_overwrite_default prior, overwrite_eq_overwrite_default other, split]
    exact overwrite_append enough _

/-- Every optional field, with both frequencies written out. -/
def longest : List UInt8 :=
  [0x17, 0x80, 0x56, 0x22, 0x12, 0x03, 0x24, 0xAD, 0xCB, 0xF0, 0x15, 0x88, 0x8A, 0x91]

theorem overwrite_append_longest :
    (extent ≤ longest.length ∧
      (overwrite { coreCoderDelay := 99999 } (longest ++ [0xFF])).refusal = none ∧
      (overwrite { coreCoderDelay := 99999 } (longest ++ [0xFF])).config.extension.psPresent) ∧
    (overwrite {} (longest.take 13)).refusal = none ∧
    ¬ (overwrite {} (longest.take 13)).config.extension.psPresent := by
  have long : extent ≤ longest.length := Nat.le_refl 14
  obtain ⟨-, refusal, config⟩ :=
    overwrite_append_of_extent { coreCoderDelay := 99999 } {} longest [0xFF] long
  refine ⟨⟨long, refusal.trans rfl, ?_⟩, rfl, by decide⟩
  rw [config]
  decide

end DecoderConfig

end AacConfig
