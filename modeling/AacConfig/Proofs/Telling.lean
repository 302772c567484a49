import AacConfig.Proofs.Grammar
import AacConfig.Proofs.Logging
import AacConfig.Proofs.Wording
import AacConfig.Stream.Story

/-!
# What the log tells

A decoding that succeeds logs every field that it reads, and its record can be
told from its log (`DecoderConfig.trace_tells`). Productions behind the flags of
the core coder change nothing of the record but the extensions, and log them
(`DecodeState.Tells`); with the header and the flags in front this makes up the
log of a whole configuration (`Production.told_of_whole`).

One kind of event stands for several fields. Which one is meant is told by its
place: the object type in front says whether the header announces extensions,
so it is known where the flags are, and behind them the first event says what
follows (`Stream.Told.unique`).
-/

namespace AacConfig

open Log
open AacConfig.Stream (ToldBehind Told headerEvents announcementEvents flagsEvent replicationEvents
  extensionEvents)

/-- The second state has the record of the first one with other extensions, and the log of the
first one with some events behind, as far as they are let through. -/
structure DecodeState.Tells (state : DecodeState) (logged : List Event) (extension : Extension)
    (stop : DecodeState) : Prop where
  config : stop.config = { state.config with extension }
  events : stop.events = state.events ++ visible state.verbosity logged
  verbosity : stop.verbosity = state.verbosity

namespace DecodeState.Tells

variable {state middle stop : DecodeState} {logged more : List Event}
  {extension other : Extension}

theorem trans (first : state.Tells logged other middle)
    (second : middle.Tells more extension stop) :
    state.Tells (logged ++ more) extension stop where
  config := by rw [second.config, first.config]
  events := by
    rw [second.events, first.events, first.verbosity, visible_append, List.append_assoc]
  verbosity := second.verbosity.trans first.verbosity

theorem log (tells : state.Tells logged extension stop) (event : Event) :
    state.Tells (logged ++ [event]) extension (stop.log event) :=
  tells.trans ⟨by rw [DecodeState.config_log, tells.config], rfl, rfl⟩

end DecodeState.Tells

namespace Production

variable {state stop : DecodeState}

/-! ## Extensions behind the core coder -/

theorem tells_of_psExtension (granted : psExtension state = .ok () stop) :
    ∃ psPresent, state.Tells [] { state.config.extension with psPresent } stop := by
  have still : ∀ count,
      ∃ psPresent, state.Tells [] { state.config.extension with psPresent }
        (state.advance count) :=
    fun _ => ⟨state.config.extension.psPresent, rfl, (List.append_nil _).symm, rfl⟩
  simp only [psExtension, available_bind] at granted
  split at granted
  · obtain ⟨word, _, read, last⟩ := bind_eq_ok_iff.mp granted
    obtain ⟨-, -, rfl⟩ := number_eq_ok_iff.mp read
    split at last
    · obtain ⟨psPresent, _, flagged, last⟩ := bind_eq_ok_iff.mp last
      obtain ⟨-, rfl⟩ := flag_eq_ok_iff.mp flagged
      cases last
      exact ⟨psPresent, rfl, (List.append_nil _).symm, rfl⟩
    · cases last
      exact still 11
  · cases granted
    rw [← state.advance_zero]
    exact still 0

/-- Extensions of a type and no more than replication, whose frequency comes with it. -/
structure Replicates (code : ObjectType) (extension : Extension) : Prop where
  objectType : extension.objectType = code
  unused : extension.sbrPresent = false → extension.frequency = {}

section Fields

variable {code : ObjectType}

theorem tells_of_sbrFlag (blank : state.config.extension = { objectType := code }) {used : Bool}
    (granted : sbrFlag state = .ok used stop) :
    ∃ extension, Replicates code extension ∧
      state.Tells (replicationEvents extension) extension stop := by
  -- the flag itself is not logged; a frequency behind it says that it was set
  rcases sbrFlag_eq_ok_iff.mp granted with ⟨-, -, rfl⟩ | ⟨-, doubled, -, -, rfl⟩
  · refine ⟨{ objectType := code }, ⟨rfl, fun _ => rfl⟩, ?_, (List.append_nil _).symm, rfl⟩
    rw [DecodeState.config_extend, DecodeState.config_advance, blank]
  · refine ⟨{ objectType := code, sbrPresent := true, frequency := doubled }, ⟨rfl, nofun⟩, ?_,
      rfl, rfl⟩
    rw [DecodeState.config_extend, DecodeState.config_log, DecodeState.config_advance, blank]

theorem tells_of_extensionFields (blank : state.config.extension = { objectType := code })
    (granted : extensionFields code state = .ok () stop) :
    ∃ extension, Replicates code extension ∧
      state.Tells (replicationEvents extension) extension stop := by
  unfold extensionFields at granted
  split at granted
  · obtain ⟨used, middle, flagged, last⟩ := bind_eq_ok_iff.mp granted
    obtain ⟨extension, replicates, tells⟩ := tells_of_sbrFlag blank flagged
    cases used with
    | false =>
        cases last
        exact ⟨extension, replicates, tells⟩
    | true =>
        -- parametric stereo is filled in behind replication and is not logged on its own
        obtain ⟨psPresent, behind⟩ := tells_of_psExtension last
        rw [tells.config] at behind
        have whole := tells.trans behind
        rw [List.append_nil] at whole
        exact ⟨{ extension with psPresent }, ⟨replicates.objectType, replicates.unused⟩, whole⟩
  · split at granted
    · obtain ⟨used, middle, flagged, last⟩ := bind_eq_ok_iff.mp granted
      obtain ⟨extension, replicates, tells⟩ := tells_of_sbrFlag blank flagged
      obtain ⟨-, rfl⟩ := skip_eq_ok_iff.mp last
      exact ⟨extension, replicates, tells.config, tells.events, tells.verbosity⟩
    · cases granted
      exact ⟨{ objectType := code }, ⟨rfl, fun _ => rfl⟩, by rw [← blank],
        (List.append_nil _).symm, rfl⟩

end Fields

theorem tells_of_recognisedExtension (blank : state.config.extension = {})
    (granted : recognisedExtension state = .ok () stop) :
    ∃ extension : Extension, (extension.sbrPresent = false → extension.frequency = {}) ∧
      state.Tells (extensionEvents extension) extension stop := by
  simp only [recognisedExtension, codedExtension, bind_eq_ok_iff, objectType_eq_ok_iff,
    updateExtension_bind, config_bind, record_eq] at granted
  obtain ⟨code, _, ⟨-, -, rfl⟩, _, middle, fields, last⟩ := granted
  obtain ⟨extension, ⟨rfl, unused⟩, behind⟩ := tells_of_extensionFields (by simp [blank]) fields
  -- the type is logged and filled in before its fields are read
  have front : state.Tells [.objectType extension.objectType]
      { objectType := extension.objectType }
      (((state.advance extension.objectType.bits.length).log
        (.objectType extension.objectType)).extend
        fun prior => { prior with objectType := extension.objectType }) :=
    ⟨by simp [blank], rfl, rfl⟩
  have whole := (front.trans behind).log
    (.syncExtension extension.objectType extension.sbrPresent extension.psPresent)
  cases last
  refine ⟨extension, unused, ?_⟩
  rw [behind.config]
  exact whole

/-- What stands behind the flags of a core coder without extensions in front is told. -/
theorem tells_of_trailing (blank : state.config.extension = {})
    (granted : trailing state = .ok () stop) :
    ∃ behind extension, ToldBehind behind extension ∧ state.Tells behind extension stop := by
  rw [trailing_eq] at granted
  split at granted
  · obtain ⟨word, _, read, last⟩ := bind_eq_ok_iff.mp granted
    obtain ⟨-, -, rfl⟩ := number_eq_ok_iff.mp read
    split at last
    · rename_i other
      cases last
      exact ⟨_, _, .foreign other, by rw [← blank]; rfl, rfl, rfl⟩
    · obtain ⟨extension, unused, tells⟩ := tells_of_recognisedExtension (by exact blank) last
      exact ⟨_, _, .extensions unused, tells.config, tells.events, tells.verbosity⟩
  · cases granted
    exact ⟨_, _, .nothing, by rw [← blank], (List.append_nil _).symm, rfl⟩

/-! ## The core coder -/

section CoreCoder

variable {channels : Nat}

/-- A core coder is one that is decoded. Its flags are told, and behind them that the rest is left
undecoded, or whatever stands there. -/
theorem tells_of_coreCoder (layout : state.config.layout = .ofNumber channels)
    (granted : coreCoder state = .ok () stop) :
    Stream.IsCore state.config.objectType ∧ ∃ flags : Stream.Flags,
      (∃ position feature, (flags.after state).Tells [.tailLeft position feature]
        state.config.extension stop) ∨
      ∃ middle, (flags.after state).Tells [] state.config.extension middle ∧
        trailing middle = .ok () stop := by
  by_cases core : Stream.IsCore state.config.objectType
  · refine ⟨core, ?_⟩
    rw [coreCoder_of_isCore core] at granted
    rcases absorbing_body_eq_ok_iff.mp granted with
      ⟨feature, reached, refused, rfl⟩ | ⟨middle, closed, last⟩
    · obtain ⟨flags, close, -, -, -, rfl⟩ :=
        (coreFlags_ends_iff core layout).mp (.undecoded refused)
      exact ⟨flags, .inl ⟨_, feature, rfl, rfl, rfl⟩⟩
    · obtain ⟨flags, close, -, -, -, rfl⟩ :=
        (coreFlags_ends_iff core layout).mp (.granted closed)
      refine ⟨flags, .inr ⟨_, ⟨?_, ?_, ?_⟩, last⟩⟩
      · rfl
      · exact (List.append_nil _).symm
      · rfl
  · rw [coreCoder_of_not_isCore core] at granted
    cases granted

/-- Without extensions in front, extensions behind a core coder are told. -/
theorem tells_of_coreCoder_of_plain (layout : state.config.layout = .ofNumber channels)
    (blank : state.config.extension = {}) (granted : coreCoder state = .ok () stop) :
    Stream.IsCore state.config.objectType ∧ ∃ (flags : Stream.Flags) (behind : List Event)
      (extension : Extension), ToldBehind behind extension ∧
        (flags.after state).Tells behind extension stop := by
  obtain ⟨core, flags, ⟨position, feature, tells⟩ | ⟨middle, front, last⟩⟩ :=
    tells_of_coreCoder layout granted
  · rw [blank] at tells
    exact ⟨core, flags, _, _, .undecoded position feature, tells⟩
  · have plain : middle.config.extension = {} := by rw [front.config, ← blank]
    obtain ⟨behind, extension, told, tells⟩ := tells_of_trailing plain last
    exact ⟨core, flags, behind, extension, told, front.trans tells⟩

/-- With extensions in front, nothing more than an undecoded rest is told behind the flags. -/
theorem tells_of_coreCoder_of_announced (layout : state.config.layout = .ofNumber channels)
    (announced : state.config.extension.objectType = ObjectType.spectralBandReplication)
    (granted : coreCoder state = .ok () stop) :
    Stream.IsCore state.config.objectType ∧ ∃ (flags : Stream.Flags) (behind : List Event),
      (behind = [] ∨
        ∃ (position : Nat) (feature : Unsupported), behind = [.tailLeft position feature]) ∧
      (flags.after state).Tells behind state.config.extension stop := by
  obtain ⟨core, flags, ⟨position, feature, tells⟩ | ⟨middle, front, last⟩⟩ :=
    tells_of_coreCoder layout granted
  · exact ⟨core, flags, _, .inr ⟨position, feature, rfl⟩, tells⟩
  · rw [trailing_of_announced (by rw [front.config]; exact announced)] at last
    cases last
    exact ⟨core, flags, [], .inl rfl, front⟩

end CoreCoder

/-- A whole configuration that is decoded is told where everything is logged. -/
theorem told_of_whole (silent : state.events = []) (loud : state.verbosity = .trace)
    (granted : whole state = .ok () stop) : Told stop.events stop.config := by
  rw [whole] at granted
  obtain ⟨_, front, opened, closed⟩ := bind_eq_ok_iff.mp granted
  obtain ⟨header, -, -, extended⟩ := preamble_eq_ok_iff.mp opened
  have none : (state.amend fun _ => {}).events = [] := silent
  have all : (state.amend fun _ => {}).verbosity = .trace := loud
  rcases frontExtension_eq_ok_iff.mp extended with
    ⟨-, rfl⟩ | ⟨announces, announcement, -, -, rfl⟩
  · obtain ⟨core, flags, behind, extension, told, tells⟩ :=
      tells_of_coreCoder_of_plain rfl rfl closed
    have events : stop.events = headerEvents stop.config.objectType stop.config ++
        flagsEvent flags.extended stop.config :: behind := by
      rw [tells.events, tells.config, headerEvents, flagsEvent]
      simp [Stream.Flags.after, Stream.Header.after, none, all, visible_trace]
    have layout : stop.config.layout = .ofNumber stop.config.layout.number := by
      rw [tells.config]
      simp [Stream.Flags.after, Stream.Header.after]
    rw [events]
    refine .plain flags.extended ?_ layout ?_
    · rw [tells.config]
      exact core
    · rw [tells.config]
      exact told
  · obtain ⟨core, flags, behind, ending, tells⟩ := tells_of_coreCoder_of_announced rfl rfl closed
    have events : stop.events = headerEvents header.objectType stop.config ++
        announcementEvents stop.config ++ flagsEvent flags.extended stop.config :: behind := by
      rw [tells.events, tells.config, headerEvents, announcementEvents, flagsEvent]
      simp [Stream.Flags.after, Stream.Announcement.after, Stream.Header.after, Stream.announced,
        none, all, visible_trace]
    have layout : stop.config.layout = .ofNumber stop.config.layout.number := by
      rw [tells.config]
      simp [Stream.Flags.after, Stream.Announcement.after, Stream.Header.after]
    rw [events]
    refine .explicit flags.extended announces ?_ layout ?_ ending
    · rw [tells.config]
      exact core
    · rw [tells.config]
      rfl

end Production

namespace Stream

/-! ## Records that are told alike -/

theorem eq_of_extensionEvents_eq {extension other : Extension}
    (unused : extension.sbrPresent = false → extension.frequency = {})
    (otherUnused : other.sbrPresent = false → other.frequency = {})
    (same : extensionEvents extension = extensionEvents other) : extension = other := by
  obtain ⟨code, behind⟩ := List.cons.inj same
  -- the last event is of fixed length, so what stands in front of it is that of replication
  obtain ⟨replication, last⟩ := List.append_inj' behind rfl
  obtain ⟨sbrPresent, psPresent, objectType, frequency⟩ := extension
  obtain ⟨otherSbr, otherPs, otherCode, otherFrequency⟩ := other
  cases code
  cases last
  cases sbrPresent with
  | false =>
      have frequencies : frequency = otherFrequency := (unused rfl).trans (otherUnused rfl).symm
      rw [frequencies]
  | true =>
      cases replication
      rfl

/-- What is told behind the flags of a core coder tells the extensions. -/
theorem ToldBehind.unique {events others : List Event} {extension other : Extension}
    (told : ToldBehind events extension) (otherTold : ToldBehind others other)
    (same : events = others) : extension = other := by
  cases told with
  | nothing =>
      cases otherTold with
      | extensions => exact absurd same.symm (List.cons_ne_nil _ _)
      | _ => rfl
  | undecoded =>
      cases otherTold with
      | extensions => cases (List.cons.inj same).1
      | _ => rfl
  | foreign =>
      cases otherTold with
      | extensions => cases (List.cons.inj same).1
      | _ => rfl
  | extensions unused =>
      cases otherTold with
      | nothing => exact absurd same (List.cons_ne_nil _ _)
      | undecoded => cases (List.cons.inj same).1
      | foreign => cases (List.cons.inj same).1
      | extensions otherUnused => exact eq_of_extensionEvents_eq unused otherUnused same

section Alike

variable {config other : DecoderConfig} {named otherNamed : ObjectType}

theorem named_eq_of_headerEvents_eq
    (same : headerEvents named config = headerEvents otherNamed other) : named = otherNamed := by
  cases (List.cons.inj same).1
  rfl

/-- Two records with the same header and the same flags differ in nothing but the type of the core
coder and the extensions. -/
theorem eq_of_headerEvents_eq {extended otherExtended : Bool}
    (layout : config.layout = .ofNumber config.layout.number)
    (otherLayout : other.layout = .ofNumber other.layout.number)
    (headers : headerEvents named config = headerEvents otherNamed other)
    (flags : flagsEvent extended config = flagsEvent otherExtended other)
    (core : config.objectType = other.objectType)
    (extension : config.extension = other.extension) : config = other := by
  simp only [headerEvents, List.cons.injEq, Event.objectType.injEq, Event.frequency.injEq,
    Event.channels.injEq] at headers
  obtain ⟨-, frequency, ⟨number, count⟩, -⟩ := headers
  simp only [flagsEvent, Event.coreFlags.injEq] at flags
  obtain ⟨frameLength, dependent, delay, -⟩ := flags
  have layouts : config.layout = other.layout :=
    layout.trans ((congrArg ChannelLayout.ofNumber number).trans otherLayout.symm)
  cases config
  cases other
  rw [DecoderConfig.mk.injEq]
  exact ⟨core, frequency, layouts, count, frameLength, dependent, delay, extension⟩

end Alike

/-- The events of a configuration tell its record. -/
theorem Told.unique {events others : List Event} {config other : DecoderConfig}
    (told : Told events config) (otherTold : Told others other) (same : events = others) :
    config = other := by
  cases told with
  | plain extended core layout ending =>
      cases otherTold with
      | plain otherExtended otherCore otherLayout otherEnding =>
          obtain ⟨headers, rest⟩ := List.append_inj same rfl
          obtain ⟨flags, behind⟩ := List.cons.inj rest
          exact eq_of_headerEvents_eq layout otherLayout headers flags
            (named_eq_of_headerEvents_eq headers) (ending.unique otherEnding behind)
      | explicit otherExtended announces =>
          -- a header names either a core coder or an extension
          rw [List.append_assoc] at same
          obtain ⟨headers, -⟩ := List.append_inj same rfl
          rw [← named_eq_of_headerEvents_eq headers] at announces
          exact absurd announces core.not_announces
  | explicit extended announces core layout extension =>
      cases otherTold with
      | plain otherExtended otherCore =>
          rw [List.append_assoc] at same
          obtain ⟨headers, -⟩ := List.append_inj same rfl
          rw [named_eq_of_headerEvents_eq headers] at announces
          exact absurd announces otherCore.not_announces
      | explicit otherExtended otherAnnounces otherCore otherLayout otherExtension =>
          -- header and announcement have as many events each, so the lists split at the same places
          obtain ⟨front, rest⟩ := List.append_inj same rfl
          obtain ⟨headers, announcements⟩ := List.append_inj front rfl
          obtain ⟨flags, -⟩ := List.cons.inj rest
          simp only [announcementEvents, List.cons.injEq, Event.frequency.injEq,
            Event.objectType.injEq] at announcements
          obtain ⟨frequency, coreSame, -⟩ := announcements
          refine eq_of_headerEvents_eq layout otherLayout headers flags coreSame ?_
          rw [extension, otherExtension, frequency, named_eq_of_headerEvents_eq headers]

/-! ## Records of a decoding -/

theorem isOfDecoding_headerEvents (named : ObjectType) (config : DecoderConfig) :
    ∀ event ∈ headerEvents named config, event.IsOfDecoding := by
  simp only [headerEvents, List.forall_mem_cons]
  exact ⟨⟨.objectType, _, rfl⟩, ⟨.frequency, _, rfl⟩, ⟨.channels, (_, _), rfl⟩, nofun⟩

theorem isOfDecoding_announcementEvents (config : DecoderConfig) :
    ∀ event ∈ announcementEvents config, event.IsOfDecoding := by
  simp only [announcementEvents, List.forall_mem_cons]
  exact ⟨⟨.frequency, _, rfl⟩, ⟨.objectType, _, rfl⟩, ⟨.explicitExtension, (_, _, _), rfl⟩, nofun⟩

theorem isOfDecoding_flagsEvent (extended : Bool) (config : DecoderConfig) :
    (flagsEvent extended config).IsOfDecoding :=
  ⟨.coreFlags, (_, _, _, _), rfl⟩

theorem isOfDecoding_tailLeft (position : Nat) (feature : Unsupported) :
    (Event.tailLeft position feature).IsOfDecoding :=
  ⟨.tailLeft, (position, feature), rfl⟩

theorem isOfDecoding_extensionEvents (extension : Extension) :
    ∀ event ∈ extensionEvents extension, event.IsOfDecoding := by
  have replication : ∀ event ∈ replicationEvents extension, event.IsOfDecoding := by
    unfold replicationEvents
    split
    · exact List.forall_mem_singleton.mpr ⟨.frequency, _, rfl⟩
    · exact nofun
  refine List.forall_mem_cons.mpr ⟨⟨.objectType, _, rfl⟩, ?_⟩
  refine List.forall_mem_append.mpr ⟨replication, ?_⟩
  exact List.forall_mem_singleton.mpr ⟨.syncExtension, (_, _, _), rfl⟩

theorem ToldBehind.isOfDecoding {events : List Event} {extension : Extension}
    (told : ToldBehind events extension) : ∀ event ∈ events, event.IsOfDecoding := by
  cases told with
  | nothing => exact nofun
  | undecoded position feature =>
      exact List.forall_mem_singleton.mpr (isOfDecoding_tailLeft position feature)
  | @foreign word => exact List.forall_mem_singleton.mpr ⟨.foreignSyncWord, word, rfl⟩
  | extensions => exact isOfDecoding_extensionEvents extension

theorem Told.isOfDecoding {events : List Event} {config : DecoderConfig}
    (told : Told events config) : ∀ event ∈ events, event.IsOfDecoding := by
  cases told with
  | plain extended _ _ ending =>
      refine List.forall_mem_append.mpr ⟨isOfDecoding_headerEvents _ config, ?_⟩
      exact List.forall_mem_cons.mpr ⟨isOfDecoding_flagsEvent extended config, ending.isOfDecoding⟩
  | @explicit _ named behind extended _ _ _ _ ending =>
      refine List.forall_mem_append.mpr ⟨List.forall_mem_append.mpr
        ⟨isOfDecoding_headerEvents named config, isOfDecoding_announcementEvents config⟩, ?_⟩
      refine List.forall_mem_cons.mpr ⟨isOfDecoding_flagsEvent extended config, ?_⟩
      rcases ending with rfl | ⟨position, feature, rfl⟩
      · exact nofun
      · exact List.forall_mem_singleton.mpr (isOfDecoding_tailLeft position feature)

end Stream

namespace DecoderConfig

variable {data other : List UInt8} {config otherConfig : DecoderConfig}

theorem told_of_decode (decoded : decode data = .ok config) :
    Stream.Told (overwrite {} data).events config := by
  obtain ⟨stop, granted, rfl⟩ := decode_eq_ok_iff_leaves.mp decoded
  have reached : (overwrite {} data).events = stop.events := by
    rw [overwrite_eq, Production.attempt, granted]
    rfl
  rw [reached]
  exact Production.told_of_whole rfl rfl granted

-- the type of the core coder stands first, and that of the extensions behind its flags
example :
    (overwrite {} [0x13, 0x90, 0x56, 0xE5, 0xA5, 0x48, 0x80]).events =
      [.objectType 2, .frequency { index := 7, hertz := 22050 }, .channels 2 2,
        .coreFlags false false 0 false, .objectType 5, .frequency { index := 4, hertz := 44100 },
        .syncExtension 5 true true] := by
  decide

/-- Byte strings that are logged alike are decoded to the same record. -/
theorem eq_of_records_eq (decoded : decode data = .ok config)
    (otherDecoded : decode other = .ok otherConfig)
    (same : records .trace (overwrite {} data).events =
      records .trace (overwrite {} other).events) : config = otherConfig := by
  have told := told_of_decode decoded
  have otherTold := told_of_decode otherDecoded
  have messages : (overwrite {} data).events.map Event.message =
      (overwrite {} other).events.map Event.message := by
    have second := congrArg (List.map Prod.snd) same
    rwa [records, records, visible_trace, visible_trace, List.map_map, List.map_map] at second
  exact told.unique otherTold
    (events_eq_of_messages_eq told.isOfDecoding otherTold.isOfDecoding messages)

/-- **The log tells the whole record.** Two byte strings that are decoded and logged alike have the
same record, and what is logged of a decoded byte string is every field of its record, in the
order in which the fields are read. -/
theorem trace_tells :
    (∀ (data other : List UInt8) (config otherConfig : DecoderConfig),
      decode data = .ok config → decode other = .ok otherConfig →
      records .trace (overwrite {} data).events = records .trace (overwrite {} other).events →
      config = otherConfig) ∧
    ∀ (data : List UInt8) (config : DecoderConfig), decode data = .ok config →
      Stream.Told (visible .trace (overwrite {} data).events) config := by
  refine ⟨fun _ _ _ _ => eq_of_records_eq, fun data config decoded => ?_⟩
  rw [visible_trace]
  exact told_of_decode decoded

/-- Both extensions behind the core coder. -/
def stereoBytes : List UInt8 :=
  [0x13, 0x90, 0x56, 0xE5, 0xA5, 0x48, 0x80]

/-- The record of both extensions behind the core coder. -/
def stereoRecord : DecoderConfig where
  objectType := ObjectType.aacLowComplexity
  frequency := { index := 7, hertz := 22050 }
  layout := .stereo
  channelCount := 2
  extension :=
    { sbrPresent := true
      psPresent := true
      objectType := ObjectType.spectralBandReplication
      frequency := { index := 4, hertz := 44100 } }

/-- Extensions behind the core coder, with and without a byte behind them. -/
theorem trace_tells_stereo :
    (∃ config otherConfig, decode stereoBytes = .ok config ∧
      decode (stereoBytes ++ [0xFF]) = .ok otherConfig ∧
      records .trace (overwrite {} stereoBytes).events =
        records .trace (overwrite {} (stereoBytes ++ [0xFF])).events ∧
      config = otherConfig) ∧
    decode stereoBytes = .ok stereoRecord ∧
    Stream.Told (visible .trace (overwrite {} stereoBytes).events) stereoRecord := by
  have decoded : decode stereoBytes = .ok stereoRecord := by decide
  have longer : decode (stereoBytes ++ [0xFF]) = .ok stereoRecord := by decide
  have alike : (overwrite {} stereoBytes).events =
      (overwrite {} (stereoBytes ++ [0xFF])).events := by decide
  have same := congrArg (records .trace) alike
  exact ⟨⟨_, _, decoded, longer, same, trace_tells.1 _ _ _ _ decoded longer same⟩, decoded,
    trace_tells.2 _ _ decoded⟩

end DecoderConfig

end AacConfig
