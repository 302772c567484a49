import AacConfig.Proofs.Growth

/-!
# Openings

The bits in front of a core coder: a header, and what it announces. They are
read exactly where they stand (`Production.opens_of_preamble`,
`Production.preamble_of_opens`), and a configuration is refused for its core
coder exactly where they name one that is not decoded
(`DecoderConfig.decode_eq_unsupported_iff`). No other feature is ever a reason
to refuse it.
-/

namespace AacConfig

namespace Stream

/-- The bits in front of a core coder, with their header and the core coder that they name. -/
inductive Opens : List Bool → Header → ObjectType → Prop
  /-- The header names the core coder. -/
  | plain {header : Header} (codable : header.Codable)
      (other : ¬ Announces header.objectType) : Opens header.bits header header.objectType
  /-- The header announces extensions, which name the core coder. -/
  | announced {header : Header} {announcement : Announcement} (codable : header.Codable)
      (announces : Announces header.objectType) (announced : announcement.Codable) :
      Opens (header.bits ++ announcement.bits) header announcement.core

end Stream

namespace Production

variable {state stop : DecodeState} {front : List Bool} {header : Stream.Header}
  {core : ObjectType}

/-- The state behind the bits in front of a core coder. -/
structure Opened (state : DecodeState) (front : List Bool) (header : Stream.Header)
    (core : ObjectType) (stop : DecodeState) : Prop where
  reader : stop.reader = state.reader.advance front.length
  objectType : stop.config.objectType = core
  layout : stop.config.layout = .ofNumber header.channels

theorem Opened.remaining (opened : Opened state front header core stop) :
    stop.remaining = state.remaining.drop front.length := by
  rw [← state.remaining_advance]
  show stop.reader.remaining = (state.reader.advance front.length).remaining
  rw [opened.reader]

theorem opens_of_preamble (granted : preamble state = .ok () stop) :
    ∃ front header core, Stream.Opens front header core ∧ front <+: state.remaining ∧
      Opened state front header core stop := by
  obtain ⟨header, codable, starts, extended⟩ := preamble_eq_ok_iff.mp granted
  rcases frontExtension_eq_ok_iff.mp extended with
    ⟨other, rfl⟩ | ⟨announces, announcement, announced, behind, rfl⟩
  · exact ⟨header.bits, header, _, .plain codable other, starts, rfl, rfl, rfl⟩
  · refine ⟨header.bits ++ announcement.bits, header, _, .announced codable announces announced,
      ?_, ?_, rfl, rfl⟩
    · rw [Stream.Header.remaining_after] at behind
      exact Bits.append_prefix_iff.mpr ⟨starts, behind⟩
    · rw [List.length_append, ← BitReader.advance_advance]
      rfl

theorem preamble_of_opens (opens : Stream.Opens front header core)
    (starts : front <+: state.remaining) :
    ∃ stop, preamble state = .ok () stop ∧ Opened state front header core stop := by
  cases opens with
  | plain codable other =>
      refine ⟨_, preamble_eq_ok_iff.mpr ⟨header, codable, starts,
        frontExtension_of_not_announces other⟩, rfl, rfl, rfl⟩
  | @announced _ announcement codable announces announced =>
      obtain ⟨headed, behind⟩ := Bits.append_prefix_iff.mp starts
      refine ⟨_, preamble_eq_ok_iff.mpr ⟨header, codable, headed, frontExtension_eq_ok_iff.mpr
        (.inr ⟨announces, announcement, announced, ?_, rfl⟩)⟩, ?_, rfl, rfl⟩
      · rw [Stream.Header.remaining_after]
        exact behind
      · rw [List.length_append, ← BitReader.advance_advance]
        rfl

/-! ## Refusals for a feature -/

/-- In front of the core coder no feature is met that is not decoded. -/
theorem supported_preamble : Supported preamble := by
  have header : Supported Production.header :=
    .bind .objectType fun _ => .bind (.update _) fun _ => .bind (.frequency fun _ => rfl)
      fun _ => .bind (.update _) fun _ => .bind (.number 4) fun _ => .bind (.update _) fun _ =>
      .record _
  have explicit : Supported explicitExtension :=
    .bind .config fun _ => .bind (.update _) fun _ => .bind (.frequency fun _ => rfl)
      fun _ => .bind (.update _) fun _ => .bind .objectType fun _ => .bind (.update _) fun _ =>
      .optional (.skip 4) (.bind .config fun _ => .record _)
  exact .bind (.update _) fun _ => .bind header fun _ => .bind .config fun _ =>
    .ite explicit (.pure _)

/-- A whole configuration is refused for a feature exactly where its core coder is none that is
decoded. -/
theorem whole_eq_unsupported_iff {feature : Unsupported} :
    whole state = .error (.unsupported feature) stop ↔
      preamble state = .ok () stop ∧ ¬ Stream.IsCore stop.config.objectType ∧
        feature = .objectType stop.config.objectType := by
  rw [whole, bind_eq_unsupported_iff supported_preamble]
  constructor
  · intro given
    obtain ⟨_, front, granted, refused⟩ := given
    by_cases isCore : Stream.IsCore front.config.objectType
    · rw [coreCoder_of_isCore isCore] at refused
      exact absurd refused absorbing_ne_unsupported
    · rw [coreCoder_of_not_isCore isCore] at refused
      cases refused
      exact ⟨granted, isCore, rfl⟩
  · rintro ⟨granted, other, rfl⟩
    exact ⟨(), stop, granted, coreCoder_of_not_isCore other⟩

end Production

namespace DecoderConfig

/-- A byte string is refused for a feature exactly where what stands in front of its core coder
can be read and names none that is decoded. -/
theorem decode_eq_unsupported_iff {data : List UInt8} {feature : Unsupported} :
    decode data = .error (.unsupported feature) ↔
      ∃ front header core, Stream.Opens front header core ∧ front <+: Bits.ofBytes data ∧
        ¬ Stream.IsCore core ∧ feature = .objectType core := by
  simp only [decode_eq_error_iff, Production.whole_eq_unsupported_iff]
  constructor
  · intro given
    obtain ⟨stop, granted, other, rfl⟩ := given
    obtain ⟨front, header, core, opens, starts, opened⟩ := Production.opens_of_preamble granted
    rw [DecodeState.remaining_start] at starts
    rw [opened.objectType] at other ⊢
    exact ⟨front, header, core, opens, starts, other, rfl⟩
  · intro given
    obtain ⟨front, header, core, opens, starts, other, rfl⟩ := given
    rw [← DecodeState.remaining_start {}] at starts
    obtain ⟨stop, granted, opened⟩ := Production.preamble_of_opens opens starts
    refine ⟨stop, granted, ?_⟩
    rw [opened.objectType]
    exact ⟨other, rfl⟩

end DecoderConfig

end AacConfig
