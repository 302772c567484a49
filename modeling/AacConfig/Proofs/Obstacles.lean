import AacConfig.Proofs.Forgiving
import AacConfig.Proofs.Opening

/-!
# Reserved frequency indices

A frequency stands at three places of a configuration: in the header, in front
of a core coder that the header announces, and in extensions behind the core
coder. A byte string is refused for a reserved index exactly where everything
in front of one of these can be read and the index stands there
(`DecoderConfig.decode_eq_reserved_iff`).

`Reserved` says of steps that they are refused for such an index. Of a sequence
this is so if it is of the first part, or of the second behind a granted first.
-/

namespace AacConfig

/-- The steps are refused for a reserved frequency index. -/
def Reserved {σ α : Type} (steps : EStateM DecodeError σ α) (start : σ) (index : Nat) : Prop :=
  ∃ stop, steps start = .error (.reservedFrequencyIndex index) stop

section Sequences

variable {σ α β : Type} {start : σ} {index : Nat}

theorem not_reserved_of_ok {steps : EStateM DecodeError σ α} {value : α} {stop : σ}
    (granted : steps start = .ok value stop) : ¬ Reserved steps start index := by
  rintro ⟨_, refused⟩
  rw [granted] at refused
  cases refused

theorem RefusesOnly.not_reserved {others : DecodeError → Prop} {steps : EStateM DecodeError σ α}
    (only : RefusesOnly others steps) (never : ¬ others (.reservedFrequencyIndex index)) :
    ¬ Reserved steps start index := by
  rintro ⟨stop, refused⟩
  rcases only start _ stop refused with short | other
  · cases short
  · exact never other

theorem reserved_bind_iff {first : EStateM DecodeError σ α}
    {second : α → EStateM DecodeError σ β} :
    Reserved (first >>= second) start index ↔
      Reserved first start index ∨
        ∃ value middle, first start = .ok value middle ∧ Reserved (second value) middle index := by
  unfold Reserved
  simp only [bind_eq_error_iff]
  constructor
  · rintro ⟨stop, refused | ⟨value, middle, granted, refused⟩⟩
    · exact .inl ⟨stop, refused⟩
    · exact .inr ⟨value, middle, granted, stop, refused⟩
  · rintro (⟨stop, refused⟩ | ⟨value, middle, granted, stop, refused⟩)
    · exact ⟨stop, .inl refused⟩
    · exact ⟨stop, .inr ⟨value, middle, granted, refused⟩⟩

/-- A first part that reads no frequency. -/
theorem reserved_bind_iff_of_first {first : EStateM DecodeError σ α}
    {second : α → EStateM DecodeError σ β} (only : RefusesOnly (fun _ => False) first) :
    Reserved (first >>= second) start index ↔
      ∃ value middle, first start = .ok value middle ∧ Reserved (second value) middle index := by
  rw [reserved_bind_iff, or_iff_right (only.not_reserved id)]

/-- A rest that reads no frequency. -/
theorem reserved_bind_iff_of_rest {first : EStateM DecodeError σ α}
    {second : α → EStateM DecodeError σ β}
    (only : ∀ value, RefusesOnly (fun _ => False) (second value)) :
    Reserved (first >>= second) start index ↔ Reserved first start index := by
  rw [reserved_bind_iff, or_iff_left]
  rintro ⟨value, middle, -, refused⟩
  exact (only value).not_reserved id refused

end Sequences

namespace SamplingFrequency

/-- An index without a meaning. -/
def IsReserved (index : Nat) : Prop :=
  index = 13 ∨ index = 14

theorem isReserved_iff {index : Nat} (fits : index < 2 ^ 4) :
    IsReserved index ↔ index ≠ explicitIndex ∧ table[index]? = none := by
  unfold IsReserved
  revert index
  decide

theorem IsReserved.lt {index : Nat} (reserved : IsReserved index) : index < 2 ^ 4 := by
  rcases reserved with rfl | rfl <;> decide

/-- A sampling frequency is refused for its index exactly where a reserved one is in front. -/
theorem read_reserved_iff {reader : BitReader} {index : Nat} :
    Reserved read reader index ↔ IsReserved index ∧ Bits.ofNat 4 index <+: reader.remaining := by
  rw [read, reserved_bind_iff_of_first (.readField 8 4)]
  simp only [BitReader.readField_eq_ok_iff (show 4 ≤ 8 by omega)]
  constructor
  · intro given
    obtain ⟨found, middle, ⟨fits, front, rfl⟩, refused⟩ := given
    by_cases written : found = explicitIndex
    · rw [if_pos written] at refused
      have only : RefusesOnly (fun _ => False) (do
          return { index := found, hertz := ← BitReader.readField 32 24 } :
          Reading SamplingFrequency) := .bind (.readField 32 24) fun _ => .pure _
      exact absurd refused (only.not_reserved id)
    · rw [if_neg written] at refused
      cases listed : table[found]? with
      | some hertz =>
          rw [listed] at refused
          exact absurd refused (not_reserved_of_ok rfl)
      | none =>
          rw [listed] at refused
          obtain ⟨_, same⟩ := refused
          cases same
          exact ⟨(isReserved_iff fits).mpr ⟨written, listed⟩, front⟩
  · rintro ⟨reserved, front⟩
    obtain ⟨written, listed⟩ := (isReserved_iff reserved.lt).mp reserved
    refine ⟨index, _, ⟨reserved.lt, front, rfl⟩, ?_⟩
    rw [if_neg written, listed]
    exact ⟨_, rfl⟩

end SamplingFrequency

open SamplingFrequency (IsReserved)

namespace Production

variable {state : DecodeState} {index : Nat}

/-! ## Productions -/

theorem frequency_reserved_iff :
    Reserved frequency state index ↔
      IsReserved index ∧ Bits.ofNat 4 index <+: state.remaining := by
  have read : Reserved (ofReading SamplingFrequency.read) state index ↔
      Reserved SamplingFrequency.read state.reader index := by
    unfold Reserved ofReading
    cases SamplingFrequency.read state.reader with
    | ok value reached => simp
    | error reason reached => simp
  rw [frequency, reserved_bind_iff_of_rest fun _ => .bind (.record _) fun _ => .pure _, read,
    SamplingFrequency.read_reserved_iff]
  rfl

theorem update_bind_reserved_iff {α : Type} {change : DecoderConfig → DecoderConfig}
    {next : Unit → Production α} :
    Reserved (update change >>= next) state index ↔
      Reserved (next ()) (state.amend change) index := Iff.rfl

theorem updateExtension_bind_reserved_iff {α : Type} {change : Extension → Extension}
    {next : Unit → Production α} :
    Reserved (updateExtension change >>= next) state index ↔
      Reserved (next ()) (state.extend change) index := Iff.rfl

theorem config_bind_reserved_iff {α : Type} {next : DecoderConfig → Production α} :
    Reserved (config >>= next) state index ↔ Reserved (next state.config) state index := Iff.rfl

/-- A header meets a reserved index behind its object type. -/
theorem header_reserved_iff :
    Reserved header state index ↔
      IsReserved index ∧ ∃ code : ObjectType, code.IsCodable ∧
        code.bits ++ Bits.ofNat 4 index <+: state.remaining := by
  rw [header, reserved_bind_iff_of_first .objectType]
  simp only [update_bind_reserved_iff, objectType_eq_ok_iff, Bits.append_prefix_iff]
  have rest : ∀ {middle}, Reserved (do
      let core ← frequency
      update fun config => { config with frequency := core }
      let layout := ChannelLayout.ofNumber (← number 4)
      update fun config => { config with layout, channelCount := layout.channelCount }
      record (.channels layout.number layout.channelCount)) middle index ↔
        IsReserved index ∧ Bits.ofNat 4 index <+: middle.remaining := by
    intro middle
    rw [reserved_bind_iff_of_rest fun _ => .bind (.update _) fun _ => .bind (.number 4) fun _ =>
      .bind (.update _) fun _ => .record _]
    exact frequency_reserved_iff
  simp only [rest]
  constructor
  · intro given
    obtain ⟨code, _, ⟨codable, front, rfl⟩, reserved, behind⟩ := given
    exact ⟨reserved, code, codable, front, by simpa using behind⟩
  · intro given
    obtain ⟨reserved, code, codable, front, behind⟩ := given
    exact ⟨code, _, ⟨codable, front, rfl⟩, reserved, by simpa using behind⟩

/-- Extensions in front of the core coder meet a reserved index at once. -/
theorem explicitExtension_reserved_iff :
    Reserved explicitExtension state index ↔
      IsReserved index ∧ Bits.ofNat 4 index <+: state.remaining := by
  have fields : ∀ {middle}, Reserved explicitFields middle index ↔
      IsReserved index ∧ Bits.ofNat 4 index <+: middle.remaining := by
    intro middle
    rw [← frequency_reserved_iff]
    exact reserved_bind_iff_of_rest fun _ => .bind (.update _) fun _ =>
      .bind .objectType fun _ => .bind (.update _) fun _ =>
      .optional (.skip 4) (.bind .config fun _ => .record _)
  rw [explicitExtension, config_bind_reserved_iff]
  exact fields

theorem frontExtension_reserved_iff :
    Reserved frontExtension state index ↔
      Stream.Announces state.config.objectType ∧ IsReserved index ∧
        Bits.ofNat 4 index <+: state.remaining := by
  rw [← explicitExtension_reserved_iff]
  by_cases announces : Stream.Announces state.config.objectType
  · rw [and_iff_right announces, Reserved, frontExtension_of_announces announces]
    rfl
  · rw [Reserved, frontExtension_of_not_announces announces]
    simp [announces]

/-- The flags of a core coder hold no frequency. -/
theorem coreFlags_not_reserved : ¬ Reserved coreFlags state index := by
  have payload : RefusesOnly (fun reason => reason.isUnsupported)
      (flag >>= fun set => if set then throw (.unsupported .extensionFlagPayload) else pure ()) :=
    .bind .flag fun _ => .ite (.throw rfl) (.pure _)
  have closing : ∀ extended, RefusesOnly (fun reason => reason.isUnsupported)
      (closingFlags extended) := fun _ =>
    .bind .config fun _ => .optional (.throw rfl) (.optional (.skip 3)
      (.ite (.optional (.skip 16) (.optional (.skip 3) payload)) (.pure _)))
  rw [coreFlags]
  exact (RefusesOnly.bind refusesOnly_leadingFlags closing).not_reserved Bool.false_ne_true

/-- A set flag of replication has a frequency behind it. -/
theorem sbrFlag_reserved_iff :
    Reserved sbrFlag state index ↔
      IsReserved index ∧ true :: Bits.ofNat 4 index <+: state.remaining := by
  have rest : ∀ {present : Bool} {middle}, Reserved (do
      updateExtension fun extension => { extension with sbrPresent := present }
      if present then
        let doubled ← frequency
        updateExtension fun extension => { extension with frequency := doubled }
      return present) middle index ↔
        present = true ∧ IsReserved index ∧ Bits.ofNat 4 index <+: middle.remaining := by
    intro present middle
    cases present with
    | false => exact ⟨fun refused => absurd refused (not_reserved_of_ok rfl), nofun⟩
    | true =>
        rw [and_iff_right rfl, updateExtension_bind_reserved_iff]
        dsimp only
        rw [if_pos rfl]
        exact (reserved_bind_iff_of_rest fun _ => .bind (.update _) fun _ => .pure _).trans
          frequency_reserved_iff
  rw [sbrFlag, reserved_bind_iff_of_first .flag]
  simp only [rest, flag_eq_ok_iff]
  rw [Bits.cons_prefix_iff]
  constructor
  · intro given
    obtain ⟨_, _, ⟨front, rfl⟩, rfl, reserved, behind⟩ := given
    exact ⟨reserved, front, by simpa using behind⟩
  · rintro ⟨reserved, front, behind⟩
    exact ⟨true, _, ⟨front, rfl⟩, rfl, reserved, by simpa using behind⟩

theorem extensionFields_reserved_iff {code : ObjectType} :
    Reserved (extensionFields code) state index ↔
      (code = ObjectType.spectralBandReplication ∨ code = ObjectType.resilientBitSliced) ∧
        IsReserved index ∧ true :: Bits.ofNat 4 index <+: state.remaining := by
  rw [← sbrFlag_reserved_iff]
  unfold extensionFields
  by_cases sbr : code = ObjectType.spectralBandReplication
  · rw [if_pos sbr, and_iff_right (.inl sbr)]
    exact reserved_bind_iff_of_rest fun _ => .ite refusesOnly_psExtension (.pure _)
  · rw [if_neg sbr]
    by_cases sliced : code = ObjectType.resilientBitSliced
    · rw [if_pos sliced, and_iff_right (.inr sliced)]
      exact reserved_bind_iff_of_rest fun _ => .skip 4
    · rw [if_neg sliced]
      constructor
      · intro refused
        exact absurd refused (not_reserved_of_ok rfl)
      · rintro ⟨named, -⟩
        exact absurd named (not_or.mpr ⟨sbr, sliced⟩)

theorem recognisedExtension_reserved_iff :
    Reserved recognisedExtension state index ↔
      IsReserved index ∧ ∃ code : ObjectType,
        (code = ObjectType.spectralBandReplication ∨ code = ObjectType.resilientBitSliced) ∧
        code.bits ++ true :: Bits.ofNat 4 index <+: state.remaining := by
  have fields : ∀ {code : ObjectType} {middle}, Reserved (do
      extensionFields code
      let extension := (← config).extension
      record (.syncExtension code extension.sbrPresent extension.psPresent)) middle index ↔
        Reserved (extensionFields code) middle index :=
    reserved_bind_iff_of_rest fun _ => .bind .config fun _ => .record _
  rw [recognisedExtension, reserved_bind_iff_of_first .objectType]
  simp only [objectType_eq_ok_iff, Bits.append_prefix_iff]
  constructor
  · intro given
    obtain ⟨code, _, ⟨-, front, rfl⟩, refused⟩ := given
    obtain ⟨named, reserved, behind⟩ := extensionFields_reserved_iff.mp (fields.mp refused)
    exact ⟨reserved, code, named, front, by simpa using behind⟩
  · intro given
    obtain ⟨reserved, code, named, front, behind⟩ := given
    -- reading asks for a type with a code, which is not said where the type is one of the two
    have codable : code.IsCodable := by
      rcases named with rfl | rfl
      · exact .inl (by decide)
      · exact .inl (by decide)
    refine ⟨code, _, ⟨codable, front, rfl⟩, fields.mpr (extensionFields_reserved_iff.mpr ?_)⟩
    exact ⟨named, reserved, by simpa using behind⟩

/-- Extensions behind the core coder meet a reserved index if their type has a flag of
replication. -/
theorem extensionWord_reserved_iff :
    Reserved extensionWord state index ↔
      IsReserved index ∧ ∃ code : ObjectType,
        (code = ObjectType.spectralBandReplication ∨ code = ObjectType.resilientBitSliced) ∧
        Stream.syncBits code ++ true :: Bits.ofNat 4 index <+: state.remaining := by
  rw [extensionWord, reserved_bind_iff_of_first (.number 11)]
  simp only [number_eq_ok_iff, Stream.syncBits, List.append_assoc]
  constructor
  · intro given
    obtain ⟨word, _, ⟨-, front, rfl⟩, refused⟩ := given
    by_cases foreign : word ≠ sbrSyncWord
    · rw [if_pos foreign] at refused
      exact absurd refused (not_reserved_of_ok rfl)
    · rw [if_neg foreign] at refused
      obtain rfl := Decidable.not_not.mp foreign
      obtain ⟨reserved, code, named, behind⟩ := recognisedExtension_reserved_iff.mp refused
      exact ⟨reserved, code, named, Bits.append_prefix_iff.mpr ⟨front, by simpa using behind⟩⟩
  · intro given
    obtain ⟨reserved, code, named, starts⟩ := given
    obtain ⟨front, behind⟩ := Bits.append_prefix_iff.mp starts
    refine ⟨sbrSyncWord, _, ⟨by decide, front, rfl⟩, ?_⟩
    rw [if_neg fun foreign => foreign rfl]
    exact recognisedExtension_reserved_iff.mpr ⟨reserved, code, named, by simpa using behind⟩

/-- Without extensions in front of the core coder, a reserved index may stand in those behind
it, and with its bits there are enough to look for them. -/
theorem trailing_reserved_iff (covered : state.Covered)
    (free : state.config.extension.objectType ≠ ObjectType.spectralBandReplication) :
    Reserved trailing state index ↔
      IsReserved index ∧ ∃ code : ObjectType,
        (code = ObjectType.spectralBandReplication ∨ code = ObjectType.resilientBitSliced) ∧
        Stream.syncBits code ++ true :: Bits.ofNat 4 index <+: state.remaining := by
  rw [← extensionWord_reserved_iff]
  by_cases many : syncExtensionWidth ≤ state.reader.available
  · unfold Reserved
    rw [trailing_eq, if_pos ⟨free, many⟩]
  · have granted : trailing state = .ok () state := by
      rw [trailing_eq, if_neg fun both => many both.2]
    constructor
    · intro refused
      exact absurd refused (not_reserved_of_ok granted)
    · intro refused
      obtain ⟨-, code, -, starts⟩ := extensionWord_reserved_iff.mp refused
      -- the word, a type and an index are more bits than it takes to look for extensions
      have enough := starts.length_le
      rw [covered.length_remaining, List.length_append, Stream.syncBits, List.length_append,
        Bits.length_ofNat] at enough
      have five := code.five_le_length_bits
      have width : syncExtensionWidth = 16 := rfl
      omega

/-- A decoded core coder meets a reserved index only behind flags that leave nothing undecoded,
and only if no extensions stand in front. -/
theorem coreCoder_reserved_iff (covered : state.Covered) {channels : Nat}
    (layout : state.config.layout = .ofNumber channels)
    (core : Stream.IsCore state.config.objectType) :
    Reserved coreCoder state index ↔
      state.config.extension.objectType ≠ ObjectType.spectralBandReplication ∧
        IsReserved index ∧ ∃ (flags : Stream.Flags) (close : List Bool) (code : ObjectType),
          flags.Codable ∧ Stream.Close channels flags.extended close false ∧
          (code = ObjectType.spectralBandReplication ∨ code = ObjectType.resilientBitSliced) ∧
          flags.bits ++ close ++ (Stream.syncBits code ++ true :: Bits.ofNat 4 index) <+:
            state.remaining := by
  have same : Reserved coreCoder state index ↔ Reserved body state index := by
    unfold Reserved
    rw [coreCoder_of_isCore core]
    exact exists_congr fun _ => (Forgives.absorbing body).refused_iff rfl
  rw [same, body, reserved_bind_iff, or_iff_right coreFlags_not_reserved]
  constructor
  · intro given
    obtain ⟨_, middle, found, refused⟩ := given
    have coveredBehind := Streaming.coreFlags.covered covered found
    obtain ⟨flags, close, codable, closing, front, rfl⟩ :=
      (coreFlags_ends_iff core layout).mp (.granted found)
    have free : state.config.extension.objectType ≠ ObjectType.spectralBandReplication := by
      intro announced
      exact not_reserved_of_ok (trailing_of_announced (by exact announced)) refused
    obtain ⟨reserved, code, named, behind⟩ := (trailing_reserved_iff coveredBehind free).mp refused
    refine ⟨free, reserved, flags, close, code, codable, closing, named, ?_⟩
    exact Bits.append_prefix_iff.mpr ⟨front, by simpa using behind⟩
  · intro given
    obtain ⟨free, reserved, flags, close, code, codable, closing, named, starts⟩ := given
    obtain ⟨front, behind⟩ := Bits.append_prefix_iff.mp starts
    obtain ⟨found⟩ := (coreFlags_ends_iff core layout).mpr
      ⟨flags, close, codable, closing, front, rfl⟩
    have coveredBehind := Streaming.coreFlags.covered covered found
    have refused := (trailing_reserved_iff coveredBehind free).mpr
      ⟨reserved, code, named, by simpa using behind⟩
    exact ⟨(), _, found, refused⟩

/-- What stands in front of a core coder meets a reserved index in its header, or at once behind
a header that announces extensions. -/
theorem preamble_reserved_iff :
    Reserved preamble state index ↔
      IsReserved index ∧
        ((∃ code : ObjectType, code.IsCodable ∧
            code.bits ++ Bits.ofNat 4 index <+: state.remaining) ∨
          ∃ header : Stream.Header, header.Codable ∧ Stream.Announces header.objectType ∧
            header.bits ++ Bits.ofNat 4 index <+: state.remaining) := by
  rw [preamble, update_bind_reserved_iff, reserved_bind_iff, header_reserved_iff, and_or_left]
  simp only [frontExtension_reserved_iff, Bits.append_prefix_iff]
  refine or_congr Iff.rfl ?_
  constructor
  · intro given
    obtain ⟨_, _, found, announces, reserved, behind⟩ := given
    obtain ⟨header, codable, front, rfl⟩ := header_eq_ok_iff.mp found
    exact ⟨reserved, header, codable, announces, front, by simpa using behind⟩
  · intro given
    obtain ⟨reserved, header, codable, announces, front, behind⟩ := given
    refine ⟨(), _, header_eq_ok_iff.mpr ⟨header, codable, front, rfl⟩, announces, reserved, ?_⟩
    simpa using behind

end Production

namespace Stream

/-- Bits that can be read and have a frequency next. -/
inductive AwaitsFrequency : List Bool → Prop
  /-- The frequency of the header, behind its object type. -/
  | header {code : ObjectType} (codable : code.IsCodable) : AwaitsFrequency code.bits
  /-- The frequency of extensions that the header announces. -/
  | announced {header : Header} (codable : header.Codable)
      (announces : Announces header.objectType) : AwaitsFrequency header.bits
  /-- The frequency of extensions behind the core coder, of a type that has one. -/
  | behind {header : Header} {flags : Flags} {close : List Bool} {code : ObjectType}
      (codable : header.Codable) (core : IsCore header.objectType) (delay : flags.Codable)
      (closing : Close header.channels flags.extended close false)
      (named : code = ObjectType.spectralBandReplication ∨ code = ObjectType.resilientBitSliced) :
      AwaitsFrequency (header.bits ++ (flags.bits ++ close ++ (syncBits code ++ [true])))

end Stream

namespace Production

variable {state : DecodeState} {index : Nat}

/-- A whole configuration is refused for a reserved index exactly where one stands in place of a
frequency that is next. -/
theorem whole_reserved_iff (covered : state.Covered) :
    Reserved whole state index ↔
      IsReserved index ∧ ∃ front, Stream.AwaitsFrequency front ∧
        front ++ Bits.ofNat 4 index <+: state.remaining := by
  -- the flag in front of the frequency is a part of what can be read
  have regroup : ∀ {header : Stream.Header} {flags : Stream.Flags} {close : List Bool}
      {code : ObjectType},
      header.bits ++ (flags.bits ++ close ++ (Stream.syncBits code ++ [true])) ++
          Bits.ofNat 4 index =
        header.bits ++
          (flags.bits ++ close ++ (Stream.syncBits code ++ true :: Bits.ofNat 4 index)) := by
    intro header flags close code
    simp only [List.append_assoc, List.singleton_append]
  rw [whole, reserved_bind_iff, preamble_reserved_iff]
  constructor
  -- a frequency stands in the header, at once behind it, or in the extensions at the end
  · rintro (⟨reserved, ⟨code, codable, starts⟩ | ⟨header, codable, announces, starts⟩⟩ |
      ⟨_, front, granted, refused⟩)
    · exact ⟨reserved, _, .header codable, starts⟩
    · exact ⟨reserved, _, .announced codable announces, starts⟩
    · have coveredFront := Streaming.preamble.covered covered granted
      have core : Stream.IsCore front.config.objectType := by
        by_cases core : Stream.IsCore front.config.objectType
        · exact core
        · obtain ⟨_, refused⟩ := refused
          rw [coreCoder_of_not_isCore core] at refused
          cases refused
      obtain ⟨header, codable, starts, extended⟩ := preamble_eq_ok_iff.mp granted
      rcases frontExtension_eq_ok_iff.mp extended with ⟨-, rfl⟩ | ⟨-, _, -, -, rfl⟩
      · obtain ⟨-, reserved, flags, close, code, delay, closing, named, behind⟩ :=
          (coreCoder_reserved_iff coveredFront rfl core).mp refused
        refine ⟨reserved, _, .behind codable core delay closing named, ?_⟩
        rw [regroup]
        exact Bits.append_prefix_iff.mpr ⟨starts, by simpa using behind⟩
      · exact absurd rfl ((coreCoder_reserved_iff coveredFront rfl core).mp refused).1
  · intro given
    obtain ⟨reserved, front, awaits, starts⟩ := given
    cases awaits with
    | header codable => exact .inl ⟨reserved, .inl ⟨_, codable, starts⟩⟩
    | announced codable announces => exact .inl ⟨reserved, .inr ⟨_, codable, announces, starts⟩⟩
    | @behind header flags close code codable core delay closing named =>
        rw [regroup] at starts
        obtain ⟨headed, behind⟩ := Bits.append_prefix_iff.mp starts
        have granted := preamble_eq_ok_iff.mpr
          ⟨header, codable, headed, frontExtension_of_not_announces core.not_announces⟩
        have coveredFront := Streaming.preamble.covered covered granted
        have free : (0 : ObjectType) ≠ ObjectType.spectralBandReplication := by decide
        refine .inr ⟨(), _, granted, (coreCoder_reserved_iff coveredFront rfl core).mpr ?_⟩
        exact ⟨free, reserved, flags, close, code, delay, closing, named,
          by simpa using behind⟩

end Production

namespace DecoderConfig

/-- A byte string is refused for a reserved index exactly where everything in front of a frequency
can be read and the index stands in its place. -/
theorem decode_eq_reserved_iff {data : List UInt8} {index : Nat} :
    decode data = .error (.reservedFrequencyIndex index) ↔
      (index = 13 ∨ index = 14) ∧ ∃ front, Stream.AwaitsFrequency front ∧
        front ++ Bits.ofNat 4 index <+: Bits.ofBytes data := by
  rw [decode_eq_error_iff, ← DecodeState.remaining_start {} data]
  exact Production.whole_reserved_iff (DecodeState.covered_start {} data)

end DecoderConfig

end AacConfig
