import AacConfig.Proofs.Obstacles

/-!
# What is absorbed

Behind a decoded core coder a feature that is not decoded is left out, and
nothing else is: `DecoderConfig.only_tail_absorbed` classifies every refusal of
a byte string and every end that leaves a tail undecoded, with the bits that
lead there. An end with a tail left is the end of the log, and says how many
bits were read.
-/

namespace AacConfig

open Log

namespace Stream

/-- Bits that end at a feature which is not decoded, behind a core coder that is. -/
inductive LeavesTail : List Bool → Unsupported → Prop
  /-- The layout is described inside the stream. -/
  | elsewhere {front : List Bool} {header : Header} {core : ObjectType} {flags : Flags}
      (opens : Opens front header core) (isCore : IsCore core) (delay : flags.Codable)
      (channels : header.channels = 0) : LeavesTail (front ++ flags.bits) .programConfigElement
  /-- Further flags announce more bits. -/
  | payload {front : List Bool} {header : Header} {core : ObjectType} {flags : Flags}
      (opens : Opens front header core) (isCore : IsCore core) (delay : flags.Codable)
      (known : header.channels ≠ 0) (extended : flags.extended = true) :
      LeavesTail (front ++ (flags.bits ++ [true])) .extensionFlagPayload

/-- The feature at which the flags of a core coder end. -/
def Header.missing (header : Header) : Unsupported :=
  if header.channels = 0 then .programConfigElement else .extensionFlagPayload

theorem Close.of_undecoded {channels : Nat} {extended : Bool} {bits : List Bool}
    (closing : Close channels extended bits true) :
    (channels = 0 ∧ bits = []) ∨ (channels ≠ 0 ∧ extended = true ∧ bits = [true]) := by
  cases closing with
  | elsewhere => exact .inl ⟨rfl, rfl⟩
  | extended known => exact .inr ⟨known, rfl, rfl⟩

theorem leavesTail_iff {read : List Bool} {feature : Unsupported} :
    LeavesTail read feature ↔
      ∃ front header core flags close, Opens front header core ∧ IsCore core ∧
        Flags.Codable flags ∧ Close header.channels flags.extended close true ∧
        read = front ++ (flags.bits ++ close) ∧ feature = header.missing := by
  constructor
  · intro leaves
    cases leaves with
    | @elsewhere front header core flags opens isCore delay channels =>
        refine ⟨front, header, core, flags, [], opens, isCore, delay, ?_, by simp,
          (if_pos channels).symm⟩
        rw [channels]
        exact .elsewhere flags.extended
    | @payload front header core flags opens isCore delay known extended =>
        refine ⟨front, header, core, flags, [true], opens, isCore, delay, ?_, rfl,
          (if_neg known).symm⟩
        rw [extended]
        exact .extended known true
  · intro given
    obtain ⟨front, header, core, flags, close, opens, isCore, delay, closing, rfl, rfl⟩ := given
    unfold Header.missing
    rcases closing.of_undecoded with ⟨channels, rfl⟩ | ⟨known, extended, rfl⟩
    · rw [if_pos channels, List.append_nil]
      exact .elsewhere opens isCore delay channels
    · rw [if_neg known]
      exact .payload opens isCore delay known extended

end Stream

namespace Production

variable {state stop : DecodeState} {feature : Unsupported}

/-- The flags of a decoded core coder meet the feature that the header tells. -/
theorem feature_eq_of_coreFlags (core : Stream.IsCore state.config.objectType)
    {header : Stream.Header} (layout : state.config.layout = .ofNumber header.channels)
    (refused : coreFlags state = .error (.unsupported feature) stop) :
    feature = header.missing := by
  rw [coreFlags, bind_eq_unsupported_iff refusesOnly_leadingFlags] at refused
  obtain ⟨extended, _, found, refused⟩ := refused
  obtain ⟨flags, -, -, -, rfl⟩ := leadingFlags_eq_ok_iff.mp found
  -- the flags themselves need nothing that is not decoded, so it is the close that is refused
  rw [closingFlags_of_isCore (by exact core)] at refused
  have elsewhere : (flags.after state).config.layout = .programConfigElement ↔
      header.channels = 0 := by
    rw [← ChannelLayout.ofNumber_eq_programConfigElement_iff, ← layout]
    rfl
  unfold Stream.Header.missing
  by_cases channels : header.channels = 0
  · rw [if_pos (elsewhere.mpr channels)] at refused
    rw [if_pos channels]
    cases refused
    rfl
  · rw [if_neg (mt elsewhere.mp channels)] at refused
    rw [if_neg channels]
    split at refused
    · obtain ⟨payload, _, -, refused⟩ := (bind_eq_unsupported_iff .flag).mp refused
      cases payload with
      | false => cases refused
      | true =>
          cases refused
          rfl
    · cases refused

/-- Only the flags of a core coder meet a feature that is not decoded. -/
theorem body_eq_unsupported_iff :
    body state = .error (.unsupported feature) stop ↔
      coreFlags state = .error (.unsupported feature) stop := by
  rw [body]
  cases found : coreFlags state with
  | error reason middle => rw [bind_of_error found]
  | ok _ middle =>
      rw [bind_of_ok found]
      constructor
      · intro refused
        exact absurd refused supported_trailing.ne_unsupported
      · intro refused
        cases refused

/-- A decoded core coder leaves a tail exactly behind flags that close with one. -/
theorem body_eq_unsupported_iff_close (core : Stream.IsCore state.config.objectType)
    {header : Stream.Header} (layout : state.config.layout = .ofNumber header.channels) :
    body state = .error (.unsupported feature) stop ↔
      ∃ (flags : Stream.Flags) (close : List Bool), flags.Codable ∧
        Stream.Close header.channels flags.extended close true ∧
        flags.bits ++ close <+: state.remaining ∧
        stop = (flags.after state).advance close.length ∧ feature = header.missing := by
  rw [body_eq_unsupported_iff]
  constructor
  · intro refused
    obtain ⟨flags, close, delay, closing, starts, rfl⟩ :=
      (coreFlags_ends_iff core layout).mp (.undecoded refused)
    exact ⟨flags, close, delay, closing, starts, rfl, feature_eq_of_coreFlags core layout refused⟩
  · intro given
    obtain ⟨flags, close, delay, closing, starts, rfl, rfl⟩ := given
    have ends := (coreFlags_ends_iff core layout).mpr ⟨flags, close, delay, closing, starts, rfl⟩
    obtain _ | refused := ends
    rw [feature_eq_of_coreFlags core layout refused] at refused
    exact refused

/-- Without forgiveness nothing but traces is logged, and the log keeps taking everything. -/
theorem traced_strict (data : List UInt8) :
    (∀ event ∈ (ended (strict (.start {} data))).events, event.severity = .trace) ∧
      (ended (strict (.start {} data))).verbosity = .trace := by
  have touched := (Fills.header.touches (.start {} data)).trans
    (Fills.touched_bind (fun _ => .behindHeader) (.start {} data))
  obtain ⟨logged, same, quiet⟩ := touched.traced
  rw [strict_start, same]
  exact ⟨quiet, touched.verbosity⟩

/-- A run that leaves a tail is granted, and its record of the tail is the last one. -/
theorem whole_of_body_unsupported {front : DecodeState} (granted : preamble state = .ok () front)
    (core : Stream.IsCore front.config.objectType)
    (refused : body front = .error (.unsupported feature) stop) :
    strict state = .error (.unsupported feature) stop ∧
      whole state = .ok () (stop.log (.tailLeft stop.reader.position feature)) := by
  constructor
  · rw [strict_eq, bind_of_ok granted, ifCore_of_isCore core]
    exact refused
  · rw [whole, bind_of_ok granted, coreCoder_of_isCore core, absorbing, refused]
    rfl

/-- A tail is on record exactly where the core coder leaves one. -/
theorem tailLeft_mem_iff {data : List UInt8} {position : Nat} :
    .tailLeft position feature ∈ (ended (whole (.start {} data))).events ↔
      ∃ front stop, preamble (.start {} data) = .ok () front ∧
        Stream.IsCore front.config.objectType ∧
        body front = .error (.unsupported feature) stop ∧ position = stop.reader.position := by
  constructor
  · intro member
    -- a run that is not forgiven is the strict one, whose log holds traces only
    rcases Forgives.whole (.start {} data) with same | ⟨missing, reached, refused, forgiven⟩
    · rw [same] at member
      cases (traced_strict data).1 _ member
    · obtain ⟨traced, heard⟩ := traced_strict data
      rw [refused] at traced heard
      have all : reached.verbosity = .trace := heard
      rw [forgiven, ended, DecodeState.events_log all] at member
      rcases List.mem_append.mp member with early | late
      · cases traced _ early
      · cases List.mem_singleton.mp late
        rw [strict_eq, bind_eq_unsupported_iff supported_preamble] at refused
        obtain ⟨_, front, granted, refused⟩ := refused
        by_cases core : Stream.IsCore front.config.objectType
        · rw [ifCore_of_isCore core] at refused
          exact ⟨front, reached, granted, core, refused, rfl⟩
        · -- a refused core coder is not forgiven
          rw [whole, bind_of_ok granted, coreCoder_of_not_isCore core] at forgiven
          cases forgiven
  · intro given
    obtain ⟨front, stop, granted, core, refused, rfl⟩ := given
    obtain ⟨strict, whole⟩ := whole_of_body_unsupported granted core refused
    have heard := (traced_strict data).2
    rw [strict] at heard
    have all : stop.verbosity = .trace := heard
    rw [whole, ended, DecodeState.events_log all]
    exact List.mem_append_right _ (List.mem_singleton.mpr rfl)

/-- Behind its flags and their close the reader has read just these bits. -/
theorem Opened.position_after {data : List UInt8} {front : List Bool} {header : Stream.Header}
    {core : ObjectType} (opened : Opened (.start {} data) front header core state)
    (flags : Stream.Flags) (close : List Bool) :
    ((flags.after state).advance close.length).reader.position =
      (front ++ (flags.bits ++ close)).length := by
  show state.reader.position + flags.bits.length + close.length = _
  rw [opened.reader, List.length_append, List.length_append]
  show 0 + front.length + flags.bits.length + close.length = _
  omega

/-- A tail is on record exactly where the bits of a byte string leave one. -/
theorem tailLeft_mem_iff_leavesTail {data : List UInt8} {position : Nat} :
    .tailLeft position feature ∈ (ended (whole (.start {} data))).events ↔
      ∃ read, Stream.LeavesTail read feature ∧ read <+: Bits.ofBytes data ∧
        position = read.length := by
  rw [tailLeft_mem_iff, ← DecodeState.remaining_start {} data]
  simp only [Stream.leavesTail_iff]
  constructor
  · intro given
    obtain ⟨middle, stop, granted, isCore, refused, rfl⟩ := given
    obtain ⟨front, header, core, opens, starts, opened⟩ := opens_of_preamble granted
    obtain ⟨flags, close, delay, closing, behind, rfl, rfl⟩ :=
      (body_eq_unsupported_iff_close isCore opened.layout).mp refused
    rw [opened.objectType] at isCore
    rw [opened.remaining] at behind
    refine ⟨_, ⟨front, header, core, flags, close, opens, isCore, delay, closing, rfl, rfl⟩,
      Bits.append_prefix_iff.mpr ⟨starts, behind⟩, opened.position_after flags close⟩
  · intro given
    obtain ⟨_, ⟨front, header, core, flags, close, opens, isCore, delay, closing, rfl, rfl⟩,
      starts, rfl⟩ := given
    obtain ⟨first, behind⟩ := Bits.append_prefix_iff.mp starts
    obtain ⟨middle, granted, opened⟩ := preamble_of_opens opens first
    rw [← opened.objectType] at isCore
    rw [← opened.remaining] at behind
    have refused := (body_eq_unsupported_iff_close isCore opened.layout).mpr
      ⟨flags, close, delay, closing, behind, rfl, rfl⟩
    exact ⟨middle, _, granted, isCore, refused, (opened.position_after flags close).symm⟩

end Production

namespace DecoderConfig

open Production (preamble body)

variable {data : List UInt8} {position : Nat} {feature : Unsupported}

theorem tailLeft_mem_overwrite_iff (prior : DecoderConfig) :
    .tailLeft position feature ∈ (overwrite prior data).events ↔
      ∃ read, Stream.LeavesTail read feature ∧ read <+: Bits.ofBytes data ∧
        position = read.length := by
  rw [← Production.tailLeft_mem_iff_leavesTail, ← state_overwrite prior]
  rfl

/-- A run that leaves a tail is granted and stands where the tail starts, and the record of the
tail follows nothing but traces. -/
theorem ends_of_tailLeft_mem {prior : DecoderConfig}
    (member : .tailLeft position feature ∈ (overwrite prior data).events) :
    (overwrite prior data).refusal = none ∧
      (overwrite prior data).state.reader.position = position ∧
      ∃ earlier, (overwrite prior data).events = earlier ++ [.tailLeft position feature] ∧
        ∀ event ∈ earlier, event.severity = .trace := by
  have left : .tailLeft position feature ∈
      (Production.ended (Production.whole (.start {} data))).events := by
    rw [← state_overwrite prior]
    exact member
  obtain ⟨front, stop, granted, core, refused, rfl⟩ := Production.tailLeft_mem_iff.mp left
  obtain ⟨strict, whole⟩ := Production.whole_of_body_unsupported granted core refused
  obtain ⟨traced, heard⟩ := Production.traced_strict data
  rw [strict] at traced heard
  have same : overwrite prior data =
      { state := stop.log (.tailLeft stop.reader.position feature), refusal := none } := by
    show Production.whole.attempt (.start {} data) = _
    rw [Production.attempt, whole]
  rw [same]
  exact ⟨rfl, rfl, stop.events, DecodeState.events_log heard _, traced⟩

/-- Any other refusal behind a decoded core coder is the refusal of the byte string. -/
theorem overwrite_of_body_refused {prior : DecoderConfig} {front stop : DecodeState}
    {reason : DecodeError} (granted : preamble (.start prior data) = .ok () front)
    (core : Stream.IsCore front.config.objectType) (refused : body front = .error reason stop)
    (other : reason.isUnsupported = false) :
    overwrite prior data = { state := stop, refusal := some reason } := by
  rw [overwrite_eq, Production.attempt, Production.whole, bind_of_ok granted,
    Production.coreCoder_of_isCore core,
    ((Production.Forgives.absorbing body).refused_iff other).mpr refused]

/-- Only the tail behind a decoded core coder is absorbed where it is not decoded.

A byte string is refused for a feature exactly if what stands in front of its core coder can be
read and names one that is not decoded. It is refused for a frequency index exactly if a reserved
one is the first obstacle. Behind a decoded core coder every refusal but one for a feature is the
refusal of the byte string. A tail is on record exactly if the bits leave one, and then the byte
string is granted, the record is the last one and its position is the number of bits read. -/
theorem only_tail_absorbed (data : List UInt8) :
    (decode data ≠ .error (.unsupported .programConfigElement) ∧
      decode data ≠ .error (.unsupported .extensionFlagPayload)) ∧
    (∀ feature, decode data = .error (.unsupported feature) ↔
      ∃ front header core, Stream.Opens front header core ∧ front <+: Bits.ofBytes data ∧
        ¬ Stream.IsCore core ∧ feature = .objectType core) ∧
    (∀ index, decode data = .error (.reservedFrequencyIndex index) ↔
      (index = 13 ∨ index = 14) ∧ ∃ front, Stream.AwaitsFrequency front ∧
        front ++ Bits.ofNat 4 index <+: Bits.ofBytes data) ∧
    (∀ prior front stop reason, preamble (.start prior data) = .ok () front →
      Stream.IsCore front.config.objectType → body front = .error reason stop →
      reason.isUnsupported = false →
      overwrite prior data = { state := stop, refusal := some reason }) ∧
    (∀ prior position feature, .tailLeft position feature ∈ (overwrite prior data).events ↔
      ∃ read, Stream.LeavesTail read feature ∧ read <+: Bits.ofBytes data ∧
        position = read.length) ∧
    ∀ prior position feature, .tailLeft position feature ∈ (overwrite prior data).events →
      (overwrite prior data).refusal = none ∧
      (overwrite prior data).state.reader.position = position ∧
      ∃ earlier, (overwrite prior data).events = earlier ++ [.tailLeft position feature] ∧
        ∀ event ∈ earlier, event.severity = .trace := by
  refine ⟨⟨?_, ?_⟩, fun _ => decode_eq_unsupported_iff, fun _ => decode_eq_reserved_iff,
    fun _ _ _ _ => overwrite_of_body_refused, fun prior _ _ => tailLeft_mem_overwrite_iff prior,
    fun _ _ _ => ends_of_tailLeft_mem⟩
  · intro refused
    obtain ⟨_, _, _, -, -, -, same⟩ := decode_eq_unsupported_iff.mp refused
    cases same
  · intro refused
    obtain ⟨_, _, _, -, -, -, same⟩ := decode_eq_unsupported_iff.mp refused
    cases same

/-- AAC LC with its layout inside the stream leaves a tail behind sixteen bits, and flags that end
inside a delay are too short. -/
theorem only_tail_absorbed_elsewhere :
    (∃ read, Stream.LeavesTail read .programConfigElement ∧
      read <+: Bits.ofBytes [0x12, 0x00, 0xFF] ∧ 16 = read.length) ∧
    (overwrite {} [0x12, 0x00, 0xFF]).refusal = none ∧
    (overwrite {} [0x12, 0x00, 0xFF]).state.reader.position = 16 ∧
    (overwrite {} [0x12, 0x12]).refusal = some (.truncated 14 15 1) := by
  have member : .tailLeft 16 .programConfigElement ∈
      (overwrite {} [0x12, 0x00, 0xFF]).events := by decide
  obtain ⟨-, -, -, -, tail, last⟩ := only_tail_absorbed [0x12, 0x00, 0xFF]
  obtain ⟨granted, position, -⟩ := last {} 16 .programConfigElement member
  obtain ⟨-, -, -, returned, -⟩ := only_tail_absorbed [0x12, 0x12]
  have short := returned {} _ _ (.truncated 14 15 1) rfl (.inr rfl) rfl rfl
  exact ⟨(tail {} 16 .programConfigElement).mp member, granted, position, by rw [short]⟩

end DecoderConfig

end AacConfig
