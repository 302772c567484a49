import AacConfig.Proofs.Invariant
import AacConfig.Proofs.Reporting

/-!
# Output frequencies of reports

A report names the profile of a mode and, beside it, the frequency that leaves
the decoder. The profile is that of the selected mode, the frequency is taken
from the record, and a refused configuration leaves a record of which the mode
knows nothing. The two agree for every byte string that is decoded, for every
byte string that is too short to select a mode, and for every strict caller.
They differ exactly where a caller that is not strict is shown a configuration
that was refused behind the frequency of an extension
(`Report.outputHertz_of_analyze`): such a report names plain AAC and the
frequency of the extension.
-/

namespace AacConfig

theorem DecodeState.Touched.extensionFrequency {fields : List DecoderConfig.Field}
    {state stop : DecodeState} (touched : state.Touched fields stop)
    (index : DecoderConfig.Field.extensionFrequencyIndex ∉ fields)
    (hertz : DecoderConfig.Field.extensionFrequencyHertz ∉ fields) :
    stop.config.extension.frequency = state.config.extension.frequency := by
  have sameIndex : stop.config.extension.frequency.index = state.config.extension.frequency.index :=
    touched.others _ index
  have sameHertz : stop.config.extension.frequency.hertz = state.config.extension.frequency.hertz :=
    touched.others _ hertz
  calc stop.config.extension.frequency
    _ = ⟨stop.config.extension.frequency.index, stop.config.extension.frequency.hertz⟩ := rfl
    _ = state.config.extension.frequency := by rw [sameIndex, sameHertz]

namespace Production

variable {state : DecodeState}

/-! ## Runs that end in front of the frequency of an extension -/

/-- Extensions in front of the core coder start with a frequency, which takes four bits. -/
theorem extensionFrequency_announced_of_lt (few : state.remaining.length < 4) :
    (ended ((explicitExtension >>= fun _ => ifCore coreFlags) state)).config.extension.frequency =
      state.config.extension.frequency := by
  let front := state.extend fun extension =>
    { extension with
      objectType := ObjectType.spectralBandReplication
      sbrPresent := true
      psPresent := state.config.objectType == ObjectType.parametricStereo }
  cases found : frequency front with
  | ok value middle =>
      obtain ⟨-, starts, -⟩ := frequency_eq_ok_iff.mp found
      have four := value.four_le_length_bits
      have fits : value.bits.length ≤ state.remaining.length := starts.length_le
      omega
  | error reason middle =>
      have stopped : explicitExtension state = .error reason middle := by
        rw [explicitExtension, config_bind, updateExtension_bind]
        exact bind_of_error found _
      have touched := Fills.frequency.touches front
      rw [found] at touched
      rw [bind_of_error stopped]
      exact touched.extensionFrequency (by decide) (by decide)

/-- Behind the core coder an extension is looked for from sixteen bits on. -/
theorem extensionFrequency_body_of_lt (covered : state.Covered)
    (few : state.reader.available < syncExtensionWidth) :
    (ended (body state)).config.extension.frequency = state.config.extension.frequency := by
  have touched := Fills.coreFlags.touches state
  have leads := (Streaming.coreFlags.accounts covered).leads
  rw [body]
  cases found : coreFlags state with
  | error reason middle =>
      rw [found] at touched
      rw [bind_of_error found]
      exact touched.extensionFrequency (by decide) (by decide)
  | ok _ middle =>
      rw [found] at touched leads
      -- the flags only move forwards, so behind them no more bits are left than in front
      have fewer : ¬ syncExtensionWidth ≤ middle.reader.available := by
        have length := leads.length
        have forward : state.reader.position ≤ middle.reader.position := leads.forward
        simp only [ended, BitReader.length] at length
        omega
      rw [bind_of_ok found, trailing_eq, if_neg fun both => fewer both.2]
      exact touched.extensionFrequency (by decide) (by decide)

theorem extensionFrequency_behindHeader_of_lt (covered : state.Covered)
    (few : state.remaining.length < 4) :
    (ended (behindHeader state)).config.extension.frequency =
      state.config.extension.frequency := by
  by_cases announces : Stream.Announces state.config.objectType
  · rw [behindHeader_of_announces announces]
    exact extensionFrequency_announced_of_lt few
  · rw [behindHeader_of_not_announces announces]
    by_cases core : Stream.IsCore state.config.objectType
    · rw [ifCore_of_isCore core]
      refine extensionFrequency_body_of_lt covered ?_
      rw [← covered.length_remaining, syncExtensionWidth]
      omega
    · rw [ifCore_of_not_isCore core]
      rfl

end Production

namespace DecoderConfig

open Production

variable {data : List UInt8}

/-- The bytes that are not decoded for a mode end in front of the frequency of an extension. -/
theorem extensionFrequency_overwrite_of_le (short : data.length ≤ DecoderMode.headerBytes) :
    (overwrite {} data).config.extension.frequency = {} := by
  have bits : (Bits.ofBytes data).length ≤ 16 := by
    rw [DecoderMode.headerBytes] at short
    rw [Bits.length_ofBytes]
    omega
  show (overwrite {} data).state.config.extension.frequency = {}
  rw [state_overwrite, Forgives.whole.config_ended, strict_start]
  cases found : header (.start {} data) with
  | error reason middle =>
      have touched := Fills.header.touches (.start {} data)
      rw [found] at touched
      rw [bind_of_error found]
      exact touched.extensionFrequency (by decide) (by decide)
  | ok _ middle =>
      obtain ⟨written, -, -, rfl⟩ := header_eq_ok_iff.mp found
      have covered := Streaming.header.covered (DecodeState.covered_start {} data) found
      -- two bytes less a header of at least thirteen bits leave three, and an index takes four
      have thirteen := written.thirteen_le_length_bits
      rw [bind_of_ok found]
      refine extensionFrequency_behindHeader_of_lt covered ?_
      rw [Stream.Header.remaining_after, DecodeState.remaining_start, List.length_drop]
      omega

end DecoderConfig

namespace Report

open DecoderConfig (decode overwrite)

variable {data : List UInt8} {report : Report}

/-- The frequency that leaves a decoder of the profile that a report names: the core coder's for
plain AAC, and otherwise that of the extension, if it has one. -/
def modeHertz (report : Report) : Nat :=
  match report.profile with
  | .aac => report.config.frequency.hertz
  | .heAac | .heAacV2 =>
      if report.config.extension.frequency.hertz ≠ 0 then
        report.config.extension.frequency.hertz
      else report.config.frequency.hertz

/-- The configuration was refused, but only behind a frequency of an extension other than that of
the core coder. -/
structure RefusedBehindFrequency (report : Report) : Prop where
  refused : report.refusal.isSome
  read : report.config.extension.frequency.hertz ≠ 0
  other : report.config.extension.frequency.hertz ≠ report.config.frequency.hertz

/-! ## Configurations that are decoded -/

theorem outputHertz_eq_of_signalled
    (signalled : report.profile = (DecoderMode.ofConfig report.config).profile)
    (well : report.config.WellFormed) : report.config.outputHertz = report.modeHertz := by
  have stereo := well.extension.psPresent
  rw [modeHertz, signalled]
  cases ps : report.config.extension.psPresent with
  | true => simp [DecoderConfig.outputHertz, DecoderMode.ofConfig, ps, stereo ps]
  | false =>
      cases sbr : report.config.extension.sbrPresent with
      | true => simp [DecoderConfig.outputHertz, DecoderMode.ofConfig, ps, sbr]
      | false => simp [DecoderConfig.outputHertz, DecoderMode.ofConfig, ps, sbr]

theorem outputHertz_describing_of_granted (granted : (describing data).refusal = none) :
    (describing data).config.outputHertz = (describing data).modeHertz := by
  have decoded : decode data = .ok (describing data).config := by
    show (overwrite {} data).result = _
    rw [Attempt.result, show (overwrite {} data).refusal = none from granted]
    rfl
  exact outputHertz_eq_of_signalled (DecoderMode.ofBytesOrPlain_of_decode decoded).1
    (DecoderConfig.wellFormed_overwrite {} data)

/-! ## Configurations that are refused -/

theorem profile_describing_of_refused {reason : DecodeError}
    (refused : (describing data).refusal = some reason) : (describing data).profile = .aac := by
  have plain := DecoderMode.ofBytesOrPlain_of_refused (refusal_overwrite_eq_some_iff.mp refused)
  rw [describing, plain]
  rfl

/-- Only replication has a frequency to put out. -/
theorem outputHertz_of_read (well : report.config.WellFormed)
    (read : report.config.extension.frequency.hertz ≠ 0) :
    report.config.extension.sbrPresent ∧
      report.config.outputHertz = report.config.extension.frequency.hertz := by
  have present : report.config.extension.sbrPresent := by
    refine well.extension.ownFrequency ?_
    intro unread
    rw [unread] at read
    exact read rfl
  refine ⟨present, ?_⟩
  simp [DecoderConfig.outputHertz, present, read]

theorem outputHertz_of_unread (unread : report.config.extension.frequency.hertz = 0) :
    report.config.outputHertz = report.config.frequency.hertz := by
  simp [DecoderConfig.outputHertz, unread]

theorem outputHertz_describing_iff_of_refused {reason : DecodeError}
    (refused : (describing data).refusal = some reason) :
    (describing data).config.outputHertz = (describing data).modeHertz ↔
      ¬ (describing data).RefusedBehindFrequency := by
  have plain : (describing data).modeHertz = (describing data).config.frequency.hertz := by
    rw [modeHertz, profile_describing_of_refused refused]
  rw [plain]
  -- the profile stays plain, so the two agree unless an extension's frequency was read that
  -- differs from the core coder's
  by_cases read : (describing data).config.extension.frequency.hertz = 0
  · exact iff_of_true (outputHertz_of_unread read) fun behind => behind.read read
  · rw [(outputHertz_of_read (DecoderConfig.wellFormed_overwrite {} data) read).2]
    constructor
    · exact fun same behind => behind.other same
    · intro notBehind
      refine Decidable.byContradiction fun other => notBehind ⟨?_, read, other⟩
      rw [refused]
      rfl

/-! ## All reports -/

/-- The output frequency of a report is that of the profile it names, unless the configuration
was refused behind the frequency of an extension. That is shown to no strict caller and of no byte
string that is too short to select a mode; the report names plain AAC and puts out the frequency of
the extension. -/
theorem outputHertz_of_analyze {strict : Bool} (produced : (analyze strict data).1 = .ok report) :
    (report.config.outputHertz = report.modeHertz ↔ ¬ report.RefusedBehindFrequency) ∧
    (report.RefusedBehindFrequency → strict = false ∧ 2 < data.length ∧ report.profile = .aac ∧
      report.config.extension.sbrPresent ∧
      report.config.outputHertz = report.config.extension.frequency.hertz) := by
  obtain rfl := eq_describing_of_analyze produced
  cases refusal : (describing data).refusal with
  | none =>
      have free : ¬ (describing data).RefusedBehindFrequency := by
        intro behind
        have refused := behind.refused
        rw [refusal] at refused
        cases refused
      exact ⟨iff_of_true (outputHertz_describing_of_granted refusal) free,
        fun behind => absurd behind free⟩
  | some reason =>
      refine ⟨outputHertz_describing_iff_of_refused refusal, ?_⟩
      intro behind
      have long : 2 < data.length := by
        refine Nat.lt_of_not_le fun short => ?_
        have unread := DecoderConfig.extensionFrequency_overwrite_of_le short
        exact behind.read (congrArg SamplingFrequency.hertz unread)
      have lenient : strict = false := by
        cases strict with
        | false => rfl
        | true =>
            rw [analyze_eq, if_pos rfl, ofBytes_of_refusal long refusal] at produced
            cases produced
      exact ⟨lenient, long, profile_describing_of_refused refusal,
        outputHertz_of_read (DecoderConfig.wellFormed_overwrite {} data) behind.read⟩

/-- Three bytes that end in the flags of the core coder, behind an extension of 44100 Hz over a
core coder of 22050 Hz. -/
theorem outputHertz_of_analyze_announced :
    (analyze false [0xEB, 0x8A, 0x08]).1 = .ok (describing [0xEB, 0x8A, 0x08]) ∧
      (describing [0xEB, 0x8A, 0x08]).RefusedBehindFrequency ∧
      (describing [0xEB, 0x8A, 0x08]).config.outputHertz ≠
        (describing [0xEB, 0x8A, 0x08]).modeHertz ∧
      (describing [0xEB, 0x8A, 0x08]).profile = .aac := by
  have shown : (analyze false [0xEB, 0x8A, 0x08]).1 = .ok (describing [0xEB, 0x8A, 0x08]) := rfl
  have behind : (describing [0xEB, 0x8A, 0x08]).RefusedBehindFrequency :=
    ⟨by decide, by decide, by decide⟩
  obtain ⟨agrees, shape⟩ := outputHertz_of_analyze shown
  exact ⟨shown, behind, fun same => agrees.mp same behind, (shape behind).2.2.1⟩

/-- A report of plain AAC may put out another frequency than that of its core coder. -/
theorem not_all_outputHertz_of_aac :
    ¬ ∀ (strict : Bool) (data : List UInt8) (report : Report),
      (analyze strict data).1 = .ok report → report.profile = .aac →
        report.config.outputHertz = report.config.frequency.hertz := by
  intro always
  have same := always false [0xEB, 0x8A, 0x08] (describing [0xEB, 0x8A, 0x08]) rfl rfl
  exact absurd same (by decide)

end Report

end AacConfig
