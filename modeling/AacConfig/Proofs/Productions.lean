import AacConfig.Proofs.Steps
import AacConfig.Stream

/-!
# Productions in front of the tail

The header, the extensions in front of the core coder and the flags of the
core coder, each granted exactly where its bits stand in front of the reader:
`Production.header_eq_ok_iff`, `Production.explicitExtension_eq_ok_iff` and
`Production.coreFlags_ends_iff`. The last one also says when the flags end at
a feature that is not decoded.
-/

namespace AacConfig

namespace Stream

/-- The object type of a header that announces extensions in front of the core coder. -/
def Announces (code : ObjectType) : Prop :=
  code = ObjectType.spectralBandReplication ∨ code = ObjectType.parametricStereo

theorem IsCore.not_announces {code : ObjectType} (core : IsCore code) : ¬ Announces code := by
  rcases core with rfl | rfl <;> (intro announces; cases announces <;> contradiction)

theorem IsCore.not_sliced {code : ObjectType} (core : IsCore code) :
    code ≠ ObjectType.resilientBitSliced := by
  rcases core with rfl | rfl <;> decide

theorem IsCore.isCodable {code : ObjectType} (core : IsCore code) : code.IsCodable := by
  rcases core with rfl | rfl
  · exact .inl (by decide)
  · exact .inl (by decide)

/-- The state behind a header. -/
def Header.after (header : Header) (state : DecodeState) : DecodeState :=
  { state with
    reader := state.reader.advance header.bits.length
    config :=
      { state.config with
        objectType := header.objectType
        frequency := header.frequency
        layout := .ofNumber header.channels
        channelCount := (ChannelLayout.ofNumber header.channels).channelCount }
    events := state.events ++ Log.visible state.verbosity
      [.objectType header.objectType, .frequency header.frequency,
        .channels header.channels (ChannelLayout.ofNumber header.channels).channelCount] }

/-- Extensions in front of a core coder: what stands between a header that names an extension
and the flags of the core coder. -/
structure Announcement where
  /-- The frequency behind spectral band replication. -/
  frequency : SamplingFrequency
  /-- The object type of the core coder. -/
  core : ObjectType
  /-- Four bits on the channels of a bit sliced core coder. -/
  channels : List Bool
deriving Repr, DecidableEq

/-- Every field of an announcement has a code. -/
structure Announcement.Codable (announcement : Announcement) : Prop where
  frequency : announcement.frequency.IsSignalled
  core : announcement.core.IsCodable
  channels : announcement.channels.length =
    if announcement.core = ObjectType.resilientBitSliced then 4 else 0

/-- The bits of an announcement. -/
def Announcement.bits (announcement : Announcement) : List Bool :=
  announcement.frequency.bits ++ announcement.core.bits ++ announcement.channels

/-- The state behind an announcement. -/
def Announcement.after (announcement : Announcement) (state : DecodeState) : DecodeState :=
  { state with
    reader := state.reader.advance announcement.bits.length
    config :=
      { state.config with
        objectType := announcement.core
        extension := announced state.config.objectType announcement.frequency }
    events := state.events ++ Log.visible state.verbosity
      [.frequency announcement.frequency, .objectType announcement.core,
        .explicitExtension true (state.config.objectType == ObjectType.parametricStereo)
          announcement.core] }

theorem Flags.bits_none (frameLength extended : Bool) :
    Flags.bits ⟨frameLength, none, extended⟩ = [frameLength] ++ [false] ++ [extended] := rfl

theorem Flags.bits_some (frameLength extended : Bool) (delay : Nat) :
    Flags.bits ⟨frameLength, some delay, extended⟩ =
      [frameLength] ++ [true] ++ Bits.ofNat 14 delay ++ [extended] := rfl

/-- The state behind the flags of a core coder. -/
def Flags.after (flags : Flags) (state : DecodeState) : DecodeState :=
  { state with
    reader := state.reader.advance flags.bits.length
    config :=
      { state.config with
        frameLengthFlag := flags.frameLength
        dependsOnCoreCoder := flags.delay.isSome
        coreCoderDelay := flags.delay.getD 0 }
    events := state.events ++ Log.visible state.verbosity
      [.coreFlags flags.frameLength flags.delay.isSome (flags.delay.getD 0) flags.extended] }

section After

variable (state : DecodeState)

@[simp] theorem Header.remaining_after (header : Header) :
    (header.after state).remaining = state.remaining.drop header.bits.length :=
  state.remaining_advance header.bits.length

@[simp] theorem Announcement.remaining_after (announcement : Announcement) :
    (announcement.after state).remaining = state.remaining.drop announcement.bits.length :=
  state.remaining_advance announcement.bits.length

@[simp] theorem Flags.remaining_after (flags : Flags) :
    (flags.after state).remaining = state.remaining.drop flags.bits.length :=
  state.remaining_advance flags.bits.length

end After

end Stream

theorem ChannelLayout.ofNumber_eq_programConfigElement_iff (number : Nat) :
    ChannelLayout.ofNumber number = .programConfigElement ↔ number = 0 := by
  constructor
  · intro inside
    have same := congrArg ChannelLayout.number inside
    rwa [ChannelLayout.number_ofNumber] at same
  · rintro rfl
    rfl

namespace Production

variable {state stop : DecodeState}

/-! ## The header and extensions in front of the core coder -/

/-- A header is granted exactly where one is in front. -/
theorem header_eq_ok_iff :
    header state = .ok () stop ↔
      ∃ header : Stream.Header, header.Codable ∧ header.bits <+: state.remaining ∧
        stop = header.after state := by
  simp only [header, bind_eq_ok_iff, objectType_eq_ok_iff, frequency_eq_ok_iff, update_bind,
    number_eq_ok_iff, record_eq]
  constructor
  · intro granted
    obtain ⟨code, _, ⟨codable, first, rfl⟩, granted⟩ := granted
    obtain ⟨core, _, ⟨signalled, second, rfl⟩, granted⟩ := granted
    obtain ⟨channels, _, ⟨fits, third, rfl⟩, reached⟩ := granted
    refine ⟨⟨code, core, channels⟩, ⟨codable, signalled, fits⟩, ?_, ?_⟩
    · simp only [Stream.Header.bits, Bits.append_prefix_iff]
      exact ⟨⟨first, by simpa using second⟩, by simpa using third⟩
    · cases reached
      simp [Stream.Header.after, Stream.Header.bits, DecodeState.advance, DecodeState.log,
        DecodeState.amend, Log.visible_cons_cons, Nat.add_assoc]
  · intro written
    obtain ⟨⟨code, core, channels⟩, ⟨codable, signalled, fits⟩, front, rfl⟩ := written
    simp only [Stream.Header.bits, Bits.append_prefix_iff] at front
    obtain ⟨⟨first, second⟩, third⟩ := front
    refine ⟨code, _, ⟨codable, first, rfl⟩, core, _, ⟨signalled, by simpa using second, rfl⟩,
      channels, _, ⟨fits, by simpa using third, rfl⟩, ?_⟩
    simp [Stream.Header.after, Stream.Header.bits, DecodeState.advance, DecodeState.log,
      DecodeState.amend, Log.visible_cons_cons, Nat.add_assoc]

/-- Extensions in front of the core coder are granted exactly where an announcement is. -/
theorem explicitExtension_eq_ok_iff :
    explicitExtension state = .ok () stop ↔
      ∃ announcement : Stream.Announcement, announcement.Codable ∧
        announcement.bits <+: state.remaining ∧ stop = announcement.after state := by
  simp only [explicitExtension, explicitFields, config_bind, updateExtension_bind, bind_eq_ok_iff,
    frequency_eq_ok_iff, objectType_eq_ok_iff, update_bind]
  constructor
  · intro granted
    obtain ⟨doubled, _, ⟨signalled, first, rfl⟩, granted⟩ := granted
    obtain ⟨core, _, ⟨codable, second, rfl⟩, last⟩ := granted
    by_cases sliced : core = ObjectType.resilientBitSliced
    · simp only [if_pos sliced, bind_eq_ok_iff, config_bind,
        skip_eq_ok_iff, record_eq] at last
      obtain ⟨_, middle, ⟨enough, rfl⟩, reached⟩ := last
      -- the skipped bits are whatever stands behind the object type
      obtain ⟨channels, four, third⟩ := Bits.exists_prefix_of_le enough
      refine ⟨⟨doubled, core, channels⟩, ⟨signalled, codable, by rw [four, if_pos sliced]⟩,
        ?_, ?_⟩
      · simp only [Stream.Announcement.bits, Bits.append_prefix_iff]
        exact ⟨⟨first, by simpa using second⟩, by simpa using third⟩
      · cases reached
        simp [Stream.Announcement.after, Stream.Announcement.bits, DecodeState.advance,
          DecodeState.log, DecodeState.amend, DecodeState.extend, Stream.announced, four,
          Log.visible_cons_cons, Nat.add_assoc]
    · simp only [if_neg sliced, config_bind, record_eq] at last
      refine ⟨⟨doubled, core, []⟩, ⟨signalled, codable, by rw [if_neg sliced]; rfl⟩, ?_, ?_⟩
      · simp only [Stream.Announcement.bits, List.append_nil, Bits.append_prefix_iff]
        exact ⟨first, by simpa using second⟩
      · cases last
        simp [Stream.Announcement.after, Stream.Announcement.bits, DecodeState.advance,
          DecodeState.log, DecodeState.amend, DecodeState.extend, Stream.announced,
          Log.visible_cons_cons]
  · intro written
    obtain ⟨⟨doubled, core, channels⟩, ⟨signalled, codable, width⟩, front, rfl⟩ := written
    simp only [Stream.Announcement.bits, Bits.append_prefix_iff] at front
    obtain ⟨⟨first, second⟩, third⟩ := front
    refine ⟨doubled, _, ⟨signalled, by simpa using first, rfl⟩, core, _,
      ⟨codable, by simpa using second, rfl⟩, ?_⟩
    by_cases sliced : core = ObjectType.resilientBitSliced
    · rw [if_pos sliced] at width
      simp only [if_pos sliced, bind_eq_ok_iff, config_bind,
        skip_eq_ok_iff, record_eq]
      refine ⟨(), _, ⟨?_, rfl⟩, ?_⟩
      · have enough := third.length_le
        rw [width] at enough
        simpa using enough
      · simp [Stream.Announcement.after, Stream.Announcement.bits, DecodeState.advance,
          DecodeState.log, DecodeState.amend, DecodeState.extend, Stream.announced, width,
          Log.visible_cons_cons, Nat.add_assoc]
    · rw [if_neg sliced] at width
      simp only [if_neg sliced, config_bind, record_eq]
      simp [Stream.Announcement.after, Stream.Announcement.bits, DecodeState.advance,
        DecodeState.log, DecodeState.amend, DecodeState.extend, Stream.announced, width,
        Log.visible_cons_cons]

/-! ## The flags of the core coder -/

theorem delay_eq_ok_iff {dependent : Bool} {value : Nat} :
    delay dependent state = .ok value stop ↔
      (dependent = false ∧ value = 0 ∧ stop = state) ∨
      (dependent = true ∧ value < 2 ^ 14 ∧ Bits.ofNat 14 value <+: state.remaining ∧
        stop = state.advance 14) := by
  cases dependent with
  | false => simp [delay, pure_eq_ok_iff]
  | true => simp [delay, number_eq_ok_iff]

/-- Leading flags are granted exactly where flags are in front. -/
theorem leadingFlags_eq_ok_iff {extended : Bool} :
    leadingFlags state = .ok extended stop ↔
      ∃ flags : Stream.Flags, flags.Codable ∧ flags.extended = extended ∧
        flags.bits <+: state.remaining ∧ stop = flags.after state := by
  simp only [leadingFlags, dependenceFlags, delayFlags, bind_eq_ok_iff, flag_eq_ok_iff,
    delay_eq_ok_iff, update_bind, record_bind, pure_eq_ok_iff]
  constructor
  · intro granted
    obtain ⟨frameLength, _, ⟨first, rfl⟩, granted⟩ := granted
    obtain ⟨dependent, _, ⟨second, rfl⟩, delay, _, delayed, granted⟩ := granted
    obtain ⟨_, _, ⟨last, rfl⟩, rfl, rfl⟩ := granted
    -- the flag before the delay says whether there is one
    rcases delayed with ⟨rfl, rfl, rfl⟩ | ⟨rfl, fits, third, rfl⟩
    · refine ⟨⟨frameLength, none, extended⟩, by simp [Stream.Flags.Codable], rfl, ?_, ?_⟩
      · simp only [Stream.Flags.bits_none, Bits.append_prefix_iff]
        exact ⟨⟨first, by simpa using second⟩, by simpa using last⟩
      · simp [Stream.Flags.after, Stream.Flags.bits, DecodeState.advance, DecodeState.log,
          DecodeState.amend]
    · refine ⟨⟨frameLength, some delay, extended⟩, by simpa [Stream.Flags.Codable] using fits,
        rfl, ?_, ?_⟩
      · simp only [Stream.Flags.bits_some, Bits.append_prefix_iff]
        exact ⟨⟨⟨first, by simpa using second⟩, by simpa using third⟩, by simpa using last⟩
      · simp [Stream.Flags.after, Stream.Flags.bits, DecodeState.advance, DecodeState.log,
          DecodeState.amend]
  · intro written
    obtain ⟨⟨frameLength, delay, extended⟩, codable, rfl, front, rfl⟩ := written
    cases delay with
    | none =>
        simp only [Stream.Flags.bits_none, Bits.append_prefix_iff] at front
        obtain ⟨⟨first, second⟩, last⟩ := front
        refine ⟨frameLength, _, ⟨first, rfl⟩, false, _, ⟨by simpa using second, rfl⟩, 0, _,
          .inl ⟨rfl, rfl, rfl⟩, extended, _, ⟨by simpa using last, rfl⟩, rfl, ?_⟩
        simp [Stream.Flags.after, Stream.Flags.bits, DecodeState.advance, DecodeState.log,
          DecodeState.amend]
    | some delay =>
        simp only [Stream.Flags.bits_some, Bits.append_prefix_iff] at front
        obtain ⟨⟨⟨first, second⟩, third⟩, last⟩ := front
        refine ⟨frameLength, _, ⟨first, rfl⟩, true, _, ⟨by simpa using second, rfl⟩, delay, _,
          .inr ⟨rfl, codable delay rfl, by simpa using third, rfl⟩, extended, _,
          ⟨by simpa using last, rfl⟩, rfl, ?_⟩
        simp [Stream.Flags.after, Stream.Flags.bits, DecodeState.advance, DecodeState.log,
          DecodeState.amend]

/-- What a core coder that is decoded has behind its leading flags. -/
theorem closingFlags_of_isCore (core : Stream.IsCore state.config.objectType) (extended : Bool) :
    closingFlags extended state =
      if state.config.layout = .programConfigElement then
        .error (.unsupported .programConfigElement) state
      else if extended then
        (flag >>= fun payload =>
          if payload then throw (.unsupported .extensionFlagPayload) else pure ()) state
      else .ok () state := by
  -- a layer number, sixteen bits and resilience flags belong to other core coders
  have noLayer : hasLayerNumber state.config.objectType = false := by
    rcases core with same | same <;> rw [same] <;> rfl
  have noResilience : hasResilienceFlags state.config.objectType = false := by
    rcases core with same | same <;> rw [same] <;> rfl
  unfold closingFlags
  rw [config_bind, noLayer, noResilience, if_neg core.not_sliced]
  by_cases inside : state.config.layout = .programConfigElement
  · rw [if_pos inside, if_pos inside]
    rfl
  · rw [if_neg inside, if_neg inside]
    cases extended <;> rfl

theorem refusesOnly_leadingFlags {others : DecodeError → Prop} :
    RefusesOnly others leadingFlags := by
  refine .bind .flag fun _ => .bind (.update _) fun _ => .bind .flag fun dependent =>
    .bind (.update _) fun _ => .bind ?_ fun _ => .bind (.update _) fun _ => .bind .flag fun _ =>
    .bind (.record _) fun _ => .pure _
  unfold delay
  split
  · exact .number 14
  · exact .pure 0

/-- Where a production ends if it is refused at most for a feature that is not decoded, and
whether it is. -/
inductive Ends (production : Production Unit) (state : DecodeState) :
    (undecoded : Bool) → (stop : DecodeState) → Prop
  /-- The production is granted. -/
  | granted {stop : DecodeState} (ended : production state = .ok () stop) :
      Ends production state false stop
  /-- The production meets a feature that is not decoded. -/
  | undecoded {feature : Unsupported} {stop : DecodeState}
      (ended : production state = .error (.unsupported feature) stop) :
      Ends production state true stop

section Ends

variable {undecoded : Bool}

theorem ends_of_ok_iff {production : Production Unit} {reached : DecodeState}
    (granted : production state = .ok () reached) :
    production.Ends state undecoded stop ↔ undecoded = false ∧ stop = reached := by
  constructor
  · rintro (ended | ended)
    · rw [granted] at ended
      cases ended
      exact ⟨rfl, rfl⟩
    · rw [granted] at ended
      cases ended
  · rintro ⟨rfl, rfl⟩
    exact .granted granted

theorem ends_of_unsupported_iff {production : Production Unit} {feature : Unsupported}
    {reached : DecodeState}
    (refused : production state = .error (.unsupported feature) reached) :
    production.Ends state undecoded stop ↔ undecoded = true ∧ stop = reached := by
  constructor
  · rintro (ended | ended)
    · rw [refused] at ended
      cases ended
    · rw [refused] at ended
      cases ended
      exact ⟨rfl, rfl⟩
  · rintro ⟨rfl, rfl⟩
    exact .undecoded refused

theorem ends_congr {first second : Production Unit} {other : DecodeState}
    (same : first state = second other) :
    first.Ends state undecoded stop ↔ second.Ends other undecoded stop := by
  constructor
  · rintro (ended | ended)
    · exact .granted (same ▸ ended)
    · exact .undecoded (same ▸ ended)
  · rintro (ended | ended)
    · exact .granted (same ▸ ended)
    · exact .undecoded (same ▸ ended)

/-- Behind a part that meets no such feature a sequence ends where its rest does. -/
theorem bind_ends_iff {α : Type} {first : Production α} {second : α → Production Unit}
    (supported : Supported first) :
    Ends (first >>= second) state undecoded stop ↔
      ∃ value middle, first state = .ok value middle ∧
        Ends (second value) middle undecoded stop := by
  constructor
  · intro ends
    cases found : first state with
    | ok value middle =>
        exact ⟨value, middle, rfl, (ends_congr (bind_of_ok found second)).mp ends⟩
    | error reason middle =>
        -- this refusal would end the sequence, and it is none for a feature
        have refused := bind_of_error found second
        rcases ends with ended | ended
        · rw [refused] at ended
          cases ended
        · rw [refused] at ended
          cases ended
          exact absurd found supported.ne_unsupported
  · intro given
    obtain ⟨value, middle, found, ends⟩ := given
    exact (ends_congr (bind_of_ok found second)).mpr ends

/-- The last flags of a decoded core coder end exactly where a close is in front. -/
theorem closingFlags_ends_iff (core : Stream.IsCore state.config.objectType) {channels : Nat}
    (layout : state.config.layout = .ofNumber channels) {extended : Bool} :
    Ends (closingFlags extended) state undecoded stop ↔
      ∃ close, Stream.Close channels extended close undecoded ∧ close <+: state.remaining ∧
        stop = state.advance close.length := by
  have closes := closingFlags_of_isCore core extended
  by_cases inside : channels = 0
  · subst inside
    have elsewhere : state.config.layout = .programConfigElement := layout
    rw [if_pos elsewhere] at closes
    rw [ends_of_unsupported_iff closes]
    constructor
    · rintro ⟨rfl, rfl⟩
      exact ⟨[], .elsewhere extended, List.nil_prefix, rfl⟩
    · intro given
      obtain ⟨close, closing, -, rfl⟩ := given
      cases closing with
      | elsewhere => exact ⟨rfl, rfl⟩
      | plain known => exact absurd rfl known
      | extended known => exact absurd rfl known
  · have described : state.config.layout ≠ .programConfigElement := by
      rw [layout, ne_eq, ChannelLayout.ofNumber_eq_programConfigElement_iff]
      exact inside
    rw [if_neg described] at closes
    cases extended with
    | false =>
        rw [if_neg Bool.false_ne_true] at closes
        rw [ends_of_ok_iff closes]
        constructor
        · rintro ⟨rfl, rfl⟩
          exact ⟨[], .plain inside, List.nil_prefix, rfl⟩
        · intro given
          obtain ⟨close, closing, -, rfl⟩ := given
          cases closing with
          | elsewhere => exact absurd rfl inside
          | plain => exact ⟨rfl, rfl⟩
    | true =>
        rw [if_pos rfl] at closes
        rw [ends_congr closes, bind_ends_iff .flag]
        simp only [flag_eq_ok_iff]
        -- the flag is the close itself, and it alone decides whether the rest is decoded
        have last : ∀ payload (middle : DecodeState),
            Ends (if payload then throw (.unsupported .extensionFlagPayload) else pure ())
              middle undecoded stop ↔ undecoded = payload ∧ stop = middle := by
          intro payload middle
          cases payload with
          | false => exact ends_of_ok_iff rfl
          | true => exact ends_of_unsupported_iff rfl
        constructor
        · intro given
          obtain ⟨payload, middle, ⟨front, rfl⟩, ends⟩ := given
          obtain ⟨rfl, rfl⟩ := (last payload _).mp ends
          exact ⟨[undecoded], .extended inside undecoded, front, rfl⟩
        · intro given
          obtain ⟨close, closing, front, rfl⟩ := given
          cases closing with
          | elsewhere => exact absurd rfl inside
          | extended => exact ⟨undecoded, _, ⟨front, rfl⟩, (last _ _).mpr ⟨rfl, rfl⟩⟩

/-- The flags of a decoded core coder end exactly where flags and their close are in front. -/
theorem coreFlags_ends_iff (core : Stream.IsCore state.config.objectType) {channels : Nat}
    (layout : state.config.layout = .ofNumber channels) :
    coreFlags.Ends state undecoded stop ↔
      ∃ (flags : Stream.Flags) (close : List Bool), flags.Codable ∧
        Stream.Close channels flags.extended close undecoded ∧
        flags.bits ++ close <+: state.remaining ∧
        stop = (flags.after state).advance close.length := by
  rw [coreFlags, bind_ends_iff refusesOnly_leadingFlags]
  simp only [leadingFlags_eq_ok_iff, Bits.append_prefix_iff]
  constructor
  · intro given
    obtain ⟨extended, middle, ⟨flags, codable, rfl, front, rfl⟩, ends⟩ := given
    obtain ⟨close, closing, behind, rfl⟩ :=
      (closingFlags_ends_iff (by exact core) (by exact layout)).mp ends
    refine ⟨flags, close, codable, closing, ⟨front, ?_⟩, rfl⟩
    rwa [Stream.Flags.remaining_after] at behind
  · intro given
    obtain ⟨flags, close, codable, closing, ⟨front, behind⟩, rfl⟩ := given
    refine ⟨flags.extended, _, ⟨flags, codable, rfl, front, rfl⟩, ?_⟩
    refine (closingFlags_ends_iff (by exact core) (by exact layout)).mpr ?_
    refine ⟨close, closing, ?_, rfl⟩
    rwa [Stream.Flags.remaining_after]

end Ends

end Production

end AacConfig
