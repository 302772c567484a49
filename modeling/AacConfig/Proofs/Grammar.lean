import AacConfig.Proofs.Tail

/-!
# The grammar

A byte string is decoded to a record exactly if its bits spell that record
(`DecoderConfig.decode_eq_ok_iff_written`). Each production was related to its
bits on its own; what is left is to put the bits together in the order in
which the decoder asks for them, and to see that a feature that is not decoded
ends the run with success once the header is known.
-/

namespace AacConfig

namespace Production

variable {state stop : DecodeState}

/-! ## Behind the flags of the core coder -/

theorem trailing_eq (state : DecodeState) :
    trailing state =
      if state.config.extension.objectType ≠ ObjectType.spectralBandReplication ∧
          syncExtensionWidth ≤ state.reader.available then
        extensionWord state
      else
        .ok () state := by
  unfold trailing
  rw [config_bind]
  by_cases free : state.config.extension.objectType ≠ ObjectType.spectralBandReplication
  · rw [if_pos free, available_bind]
    by_cases many : syncExtensionWidth ≤ state.reader.available
    · rw [if_pos many, if_pos ⟨free, many⟩, syncExtension_of_le many]
    · rw [if_neg many, if_neg fun both => many both.2]
      rfl
  · rw [if_neg free, if_neg fun both => free both.1]
    rfl

theorem supported_trailing : Supported trailing := by
  intro state reason stop refused
  rw [trailing_eq] at refused
  split at refused
  · exact supported_extensionWord state reason stop refused
  · cases refused

/-- Extensions in front of the core coder leave none to look for behind it. -/
theorem trailing_of_announced
    (announced : state.config.extension.objectType = ObjectType.spectralBandReplication) :
    trailing state = .ok () state := by
  rw [trailing_eq, if_neg fun both => both.1 announced]

/-- Without extensions in front of the core coder, a tail stands behind it. -/
theorem trailing_leaves_iff (covered : state.Covered) (plain : state.config.extension = {})
    {config : DecoderConfig} :
    trailing.Leaves state config ↔
      ∃ extension, Stream.Tail state.remaining extension ∧
        config = { state.config with extension } := by
  have free : state.config.extension.objectType ≠ ObjectType.spectralBandReplication := by
    rw [plain]
    decide
  by_cases many : syncExtensionWidth ≤ state.remaining.length
  · have same : trailing state = extensionWord state := by
      rw [trailing_eq, if_pos ⟨free, covered.length_remaining ▸ many⟩]
    unfold Leaves
    rw [same]
    constructor
    · exact tail_of_extensionWord covered many plain
    · intro given
      obtain ⟨extension, tail, rfl⟩ := given
      exact extensionWord_leaves_of_tail covered many plain tail
  · -- too few bits are no tail but the short one
    have same : trailing state = .ok () state := by
      rw [trailing_eq, if_neg fun both => many (covered.length_remaining ▸ both.2)]
    unfold Leaves
    rw [same]
    constructor
    · rintro ⟨_, granted, rfl⟩
      cases granted
      exact ⟨{}, .short (Nat.not_le.mp many), by rw [← plain]⟩
    · intro given
      obtain ⟨extension, tail, rfl⟩ := given
      rw [Stream.tail_eq_default tail (Nat.not_le.mp many), ← plain]
      exact ⟨state, rfl, rfl⟩

/-! ## The core coder -/

/-- A decoded core coder ends at its flags, with an event that says so, or is followed by what
stands behind them. -/
theorem absorbing_body_eq_ok_iff :
    absorbing body state = .ok () stop ↔
      (∃ feature reached, coreFlags state = .error (.unsupported feature) reached ∧
        stop = reached.log (.tailLeft reached.reader.position feature)) ∨
      ∃ middle, coreFlags state = .ok () middle ∧ trailing middle = .ok () stop := by
  simp only [absorbing, body, record_eq]
  cases found : coreFlags state with
  | ok value middle =>
      rw [bind_of_ok found]
      constructor
      · intro granted
        split at granted
        · rename_i refused
          exact absurd refused supported_trailing.ne_unsupported
        · exact .inr ⟨middle, rfl, granted⟩
      · rintro (⟨_, _, refused, -⟩ | ⟨_, same, granted⟩)
        · cases refused
        · cases same
          rw [granted]
  | error reason middle =>
      -- only a missing feature is taken for an end
      rw [bind_of_error found]
      constructor
      · intro granted
        split at granted
        · rename_i feature reached refused
          cases refused
          cases granted
          exact .inl ⟨feature, middle, rfl, rfl⟩
        · cases granted
      · rintro (⟨feature, _, same, rfl⟩ | ⟨_, same, -⟩)
        · cases same
          rfl
        · cases same

/-- The record that a decoded core coder leaves behind is that of its flags, or of what follows
them. -/
theorem absorbing_body_leaves_iff {config : DecoderConfig} :
    (absorbing body).Leaves state config ↔
      (∃ stop, coreFlags.Ends state true stop ∧ stop.config = config) ∨
      (∃ stop, coreFlags.Ends state false stop ∧ trailing.Leaves stop config) := by
  simp only [Leaves, absorbing_body_eq_ok_iff]
  constructor
  · rintro ⟨stop, ⟨feature, reached, refused, rfl⟩ | ⟨middle, granted, last⟩, rfl⟩
    · exact .inl ⟨reached, .undecoded refused, rfl⟩
    · exact .inr ⟨middle, .granted granted, stop, last, rfl⟩
  · rintro (⟨reached, ends, rfl⟩ | ⟨middle, ends, stop, last, rfl⟩)
    · cases ends with
      | undecoded refused => exact ⟨_, .inl ⟨_, reached, refused, rfl⟩, rfl⟩
    · cases ends with
      | granted granted => exact ⟨stop, .inr ⟨middle, granted, last⟩, rfl⟩

theorem ifCore_of_isCore {inner : Production Unit}
    (core : Stream.IsCore state.config.objectType) : ifCore inner state = inner state := by
  unfold ifCore
  rw [config_bind]
  exact congrFun (if_pos core) state

theorem ifCore_of_not_isCore {inner : Production Unit}
    (other : ¬ Stream.IsCore state.config.objectType) :
    ifCore inner state =
      .error (.unsupported (.objectType state.config.objectType)) state := by
  unfold ifCore
  rw [config_bind]
  exact congrFun (if_neg other) state

theorem coreCoder_of_isCore (core : Stream.IsCore state.config.objectType) :
    coreCoder state = absorbing body state := by
  rw [coreCoder, ifCore_of_isCore core]

theorem coreCoder_of_not_isCore (other : ¬ Stream.IsCore state.config.objectType) :
    coreCoder state = .error (.unsupported (.objectType state.config.objectType)) state := by
  rw [coreCoder, ifCore_of_not_isCore other]

theorem coreCoder_leaves_iff {config : DecoderConfig} :
    coreCoder.Leaves state config ↔
      Stream.IsCore state.config.objectType ∧ (absorbing body).Leaves state config := by
  by_cases core : Stream.IsCore state.config.objectType
  · rw [and_iff_right core, Leaves, Leaves, coreCoder_of_isCore core]
  · unfold Leaves
    rw [coreCoder_of_not_isCore core]
    constructor
    · rintro ⟨stop, granted, -⟩
      cases granted
    · rintro ⟨known, -⟩
      exact absurd known core

section CoreCoder

variable {channels : Nat} {config : DecoderConfig}

/-- Without extensions in front, a core coder is its flags, their close and a tail. -/
theorem coreCoder_leaves_iff_of_plain (covered : state.Covered)
    (layout : state.config.layout = .ofNumber channels) (plain : state.config.extension = {}) :
    coreCoder.Leaves state config ↔
      Stream.IsCore state.config.objectType ∧
        ∃ (flags : Stream.Flags) (close rest : List Bool), flags.Codable ∧
          state.remaining = flags.bits ++ close ++ rest ∧
          ((Stream.Close channels flags.extended close true ∧
              config = (flags.after state).config) ∨
            (Stream.Close channels flags.extended close false ∧
              ∃ extension, Stream.Tail rest extension ∧
                config = { (flags.after state).config with extension })) := by
  rw [coreCoder_leaves_iff]
  refine and_congr_right fun core => ?_
  simp only [absorbing_body_leaves_iff, coreFlags_ends_iff core layout]
  -- what stands behind the flags and their close is what the tail is looked for in
  have behind : ∀ {flags : Stream.Flags} {close rest : List Bool},
      state.remaining = flags.bits ++ close ++ rest →
      ((flags.after state).advance close.length).remaining = rest ∧
        ((flags.after state).advance close.length).Covered := by
    intro flags close rest split
    have front : flags.bits ++ close <+: state.remaining := ⟨rest, split.symm⟩
    have same := DecodeState.remaining_advance_of_eq_append split
    have coveredBehind := covered.advance front.length_le
    rw [List.length_append, ← DecodeState.advance_advance] at same coveredBehind
    exact ⟨same, coveredBehind⟩
  constructor
  · rintro (⟨stop, ⟨flags, close, codable, closing, front, rfl⟩, rfl⟩ |
      ⟨stop, ⟨flags, close, codable, closing, front, rfl⟩, left⟩)
    · obtain ⟨rest, split⟩ := front
      exact ⟨flags, close, rest, codable, split.symm, .inl ⟨closing, rfl⟩⟩
    · obtain ⟨rest, split⟩ := front
      obtain ⟨same, coveredBehind⟩ := behind split.symm
      obtain ⟨extension, tail, rfl⟩ := (trailing_leaves_iff coveredBehind plain).mp left
      rw [same] at tail
      exact ⟨flags, close, rest, codable, split.symm, .inr ⟨closing, extension, tail, rfl⟩⟩
  · rintro ⟨flags, close, rest, codable, split, ⟨closing, rfl⟩ |
      ⟨closing, extension, tail, rfl⟩⟩
    · exact .inl ⟨_, ⟨flags, close, codable, closing, ⟨rest, split.symm⟩, rfl⟩, rfl⟩
    · obtain ⟨same, coveredBehind⟩ := behind split
      rw [← same] at tail
      exact .inr ⟨_, ⟨flags, close, codable, closing, ⟨rest, split.symm⟩, rfl⟩,
        (trailing_leaves_iff coveredBehind plain).mpr ⟨extension, tail, rfl⟩⟩

/-- With extensions in front, a core coder is its flags and their close. -/
theorem coreCoder_leaves_iff_of_announced (layout : state.config.layout = .ofNumber channels)
    (announced : state.config.extension.objectType = ObjectType.spectralBandReplication) :
    coreCoder.Leaves state config ↔
      Stream.IsCore state.config.objectType ∧
        ∃ (flags : Stream.Flags) (close : List Bool) (ignored : Bool), flags.Codable ∧
          Stream.Close channels flags.extended close ignored ∧
          flags.bits ++ close <+: state.remaining ∧ config = (flags.after state).config := by
  rw [coreCoder_leaves_iff]
  refine and_congr_right fun core => ?_
  simp only [absorbing_body_leaves_iff, coreFlags_ends_iff core layout]
  constructor
  · rintro (⟨stop, ⟨flags, close, codable, closing, front, rfl⟩, rfl⟩ |
      ⟨stop, ⟨flags, close, codable, closing, front, rfl⟩, left⟩)
    · exact ⟨flags, close, true, codable, closing, front, rfl⟩
    · obtain ⟨_, granted, rfl⟩ := left
      rw [trailing_of_announced (by exact announced)] at granted
      cases granted
      exact ⟨flags, close, false, codable, closing, front, rfl⟩
  · intro given
    obtain ⟨flags, close, ignored, codable, closing, front, rfl⟩ := given
    cases ignored with
    | true => exact .inl ⟨_, ⟨flags, close, codable, closing, front, rfl⟩, rfl⟩
    | false =>
        exact .inr ⟨_, ⟨flags, close, codable, closing, front, rfl⟩, _,
          trailing_of_announced announced, rfl⟩

end CoreCoder

/-! ## A whole configuration -/

theorem frontExtension_of_announces (announces : Stream.Announces state.config.objectType) :
    frontExtension state = explicitExtension state := by
  unfold frontExtension
  rw [config_bind]
  exact congrFun (if_pos announces) state

theorem frontExtension_of_not_announces
    (other : ¬ Stream.Announces state.config.objectType) :
    frontExtension state = .ok () state := by
  unfold frontExtension
  rw [config_bind]
  exact congrFun (if_neg other) state

theorem frontExtension_eq_ok_iff :
    frontExtension state = .ok () stop ↔
      (¬ Stream.Announces state.config.objectType ∧ stop = state) ∨
      (Stream.Announces state.config.objectType ∧
        ∃ announcement : Stream.Announcement, announcement.Codable ∧
          announcement.bits <+: state.remaining ∧ stop = announcement.after state) := by
  by_cases announces : Stream.Announces state.config.objectType
  · rw [frontExtension_of_announces announces, explicitExtension_eq_ok_iff]
    simp only [announces, not_true_eq_false, false_and, true_and, false_or]
  · rw [frontExtension_of_not_announces announces]
    simp [announces, eq_comm]

/-- What stands in front of the core coder is granted exactly where a header is, and behind it
the extensions that it announces. -/
theorem preamble_eq_ok_iff :
    preamble state = .ok () stop ↔
      ∃ header : Stream.Header, header.Codable ∧ header.bits <+: state.remaining ∧
        frontExtension (header.after (state.amend fun _ => {})) = .ok () stop := by
  rw [preamble, update_bind, bind_eq_ok_iff]
  constructor
  · intro given
    obtain ⟨_, front, headed, extended⟩ := given
    obtain ⟨header, codable, starts, rfl⟩ := header_eq_ok_iff.mp headed
    exact ⟨header, codable, starts, extended⟩
  · intro given
    obtain ⟨header, codable, starts, extended⟩ := given
    exact ⟨(), _, header_eq_ok_iff.mpr ⟨header, codable, starts, rfl⟩, extended⟩

section Whole

variable {config : DecoderConfig}

theorem whole_leaves_iff :
    whole.Leaves state config ↔
      ∃ front, preamble state = .ok () front ∧ coreCoder.Leaves front config := by
  simp only [Leaves, whole, bind_eq_ok_iff]
  constructor
  · intro given
    obtain ⟨stop, ⟨_, front, granted, ended⟩, same⟩ := given
    exact ⟨front, granted, stop, ended, same⟩
  · intro given
    obtain ⟨front, granted, stop, ended, same⟩ := given
    exact ⟨stop, ⟨(), front, granted, ended⟩, same⟩

/-- A configuration is decoded only where it is written. -/
theorem written_of_whole_leaves (covered : state.Covered) (left : whole.Leaves state config) :
    Stream.Written state.remaining config := by
  obtain ⟨_, granted, left⟩ := whole_leaves_iff.mp left
  obtain ⟨header, codable, starts, extended⟩ := preamble_eq_ok_iff.mp granted
  have headed : state.remaining =
      header.bits ++ (header.after (state.amend fun _ => {})).remaining :=
    DecodeState.remaining_eq_append starts
  rcases frontExtension_eq_ok_iff.mp extended with
    ⟨-, rfl⟩ | ⟨announces, announcement, announced, behind, rfl⟩
  · have coveredFront := covered.advance starts.length_le
    obtain ⟨core, flags, close, rest, delay, split, ended⟩ :=
      (coreCoder_leaves_iff_of_plain (by exact coveredFront) rfl rfl).mp left
    have bits : state.remaining = header.bits ++ flags.bits ++ close ++ rest := by
      rw [headed, split]
      simp only [List.append_assoc]
    rw [bits]
    rcases ended with ⟨closing, rfl⟩ | ⟨closing, extension, tail, rfl⟩
    · exact .undecoded codable core delay closing
    · exact .plain codable core delay closing tail
  · obtain ⟨core, flags, close, ignored, delay, closing, ⟨rest, split⟩, rfl⟩ :=
      (coreCoder_leaves_iff_of_announced rfl rfl).mp left
    have announcing : (header.after (state.amend fun _ => {})).remaining =
        announcement.bits ++
          (announcement.after (header.after (state.amend fun _ => {}))).remaining :=
      DecodeState.remaining_eq_append behind
    -- a decoded core coder is not bit sliced, so nothing stands between its type and its flags
    have noChannels : announcement.channels = [] := by
      have width := announced.channels
      rw [if_neg (by exact core.not_sliced)] at width
      exact List.eq_nil_of_length_eq_zero width
    have bits : state.remaining =
        header.bits ++ announcement.frequency.bits ++ announcement.core.bits ++ flags.bits ++
          close ++ rest := by
      rw [headed, announcing, ← split, Stream.Announcement.bits, noChannels]
      simp only [List.append_assoc, List.nil_append]
    rw [bits]
    exact .explicit codable announces announced.frequency core delay closing

/-- A configuration is decoded wherever it is written. -/
theorem whole_leaves_of_written (covered : state.Covered) {bits : List Bool}
    (split : state.remaining = bits) (written : Stream.Written bits config) :
    whole.Leaves state config := by
  have headed : ∀ {header : Stream.Header} {rest : List Bool},
      state.remaining = header.bits ++ rest →
        header.bits <+: state.remaining ∧
          (header.after (state.amend fun _ => {})).remaining = rest ∧
          (header.after (state.amend fun _ => {})).Covered := by
    intro header rest split
    have starts : header.bits <+: state.remaining := ⟨rest, split.symm⟩
    exact ⟨starts, DecodeState.remaining_advance_of_eq_append split,
      covered.advance starts.length_le⟩
  rw [whole_leaves_iff]
  cases written with
  | @undecoded header flags close rest codable core delay closing =>
      rw [List.append_assoc, List.append_assoc] at split
      obtain ⟨starts, behind, coveredFront⟩ := headed split
      have granted := preamble_eq_ok_iff.mpr
        ⟨header, codable, starts, frontExtension_of_not_announces core.not_announces⟩
      refine ⟨_, granted, (coreCoder_leaves_iff_of_plain coveredFront rfl rfl).mpr ⟨core, ?_⟩⟩
      rw [← List.append_assoc] at behind
      exact ⟨flags, close, rest, delay, behind, .inl ⟨closing, rfl⟩⟩
  | @plain header flags close tail extension codable core delay closing ending =>
      rw [List.append_assoc, List.append_assoc] at split
      obtain ⟨starts, behind, coveredFront⟩ := headed split
      have granted := preamble_eq_ok_iff.mpr
        ⟨header, codable, starts, frontExtension_of_not_announces core.not_announces⟩
      refine ⟨_, granted, (coreCoder_leaves_iff_of_plain coveredFront rfl rfl).mpr ⟨core, ?_⟩⟩
      rw [← List.append_assoc] at behind
      exact ⟨flags, close, tail, delay, behind, .inr ⟨closing, extension, ending, rfl⟩⟩
  | @explicit header frequency core flags close rest ignored codable named signalled isCore
      delay closing =>
      -- frequency and core coder are the announcement that the decoder reads
      let announcement : Stream.Announcement := ⟨frequency, core, []⟩
      have announced : announcement.Codable :=
        ⟨signalled, isCore.isCodable, by rw [if_neg (by exact isCore.not_sliced)]; rfl⟩
      have regrouped : state.remaining =
          header.bits ++ (announcement.bits ++ (flags.bits ++ close ++ rest)) := by
        rw [split, Stream.Announcement.bits]
        simp only [announcement, List.append_assoc, List.nil_append]
      obtain ⟨starts, behind, -⟩ := headed regrouped
      have flagged := DecodeState.remaining_advance_of_eq_append behind
      have granted := preamble_eq_ok_iff.mpr ⟨header, codable, starts,
        frontExtension_eq_ok_iff.mpr
          (.inr ⟨named, announcement, announced, ⟨_, behind.symm⟩, rfl⟩)⟩
      refine ⟨_, granted, (coreCoder_leaves_iff_of_announced rfl rfl).mpr ⟨isCore, ?_⟩⟩
      exact ⟨flags, close, ignored, delay, closing, ⟨rest, flagged.symm⟩, rfl⟩

end Whole

end Production

namespace DecoderConfig

/-- Decoding succeeds with the record that all productions together leave behind. -/
theorem decode_eq_ok_iff_leaves {data : List UInt8} {config : DecoderConfig} :
    decode data = .ok config ↔
      Production.whole.Leaves (.start {} data) config := by
  simp only [decode, overwrite_eq, Production.attempt, Production.Leaves]
  cases Production.whole (.start {} data) with
  | ok _ reached =>
      constructor
      · intro decoded
        cases decoded
        exact ⟨reached, rfl, rfl⟩
      · rintro ⟨_, granted, rfl⟩
        cases granted
        rfl
  | error reason reached =>
      constructor
      · intro decoded
        cases decoded
      · rintro ⟨_, granted, -⟩
        cases granted

/-- Decoding fails for the reason for which all productions together are refused. -/
theorem decode_eq_error_iff {data : List UInt8} {reason : DecodeError} :
    decode data = .error reason ↔
      ∃ stop, Production.whole (.start {} data) = .error reason stop := by
  simp only [decode, overwrite_eq, Production.attempt]
  cases Production.whole (.start {} data) with
  | ok _ reached =>
      constructor
      · intro failed
        cases failed
      · rintro ⟨_, refused⟩
        cases refused
  | error found reached =>
      constructor
      · intro failed
        cases failed
        exact ⟨reached, rfl⟩
      · rintro ⟨_, refused⟩
        cases refused
        rfl

theorem written_of_decode {data : List UInt8} {config : DecoderConfig}
    (decoded : decode data = .ok config) : Stream.Written (Bits.ofBytes data) config := by
  rw [← DecodeState.remaining_start {} data]
  exact Production.written_of_whole_leaves (DecodeState.covered_start {} data)
    (decode_eq_ok_iff_leaves.mp decoded)

theorem decode_of_written {data : List UInt8} {config : DecoderConfig}
    (written : Stream.Written (Bits.ofBytes data) config) : decode data = .ok config :=
  decode_eq_ok_iff_leaves.mpr <| Production.whole_leaves_of_written
    (DecodeState.covered_start {} data) (DecodeState.remaining_start {} data) written

/-- A byte string is decoded to a record exactly if its bits spell a configuration with that
record. -/
theorem decode_eq_ok_iff_written (data : List UInt8) (config : DecoderConfig) :
    decode data = .ok config ↔ Stream.Written (Bits.ofBytes data) config :=
  ⟨written_of_decode, decode_of_written⟩

end DecoderConfig

end AacConfig
