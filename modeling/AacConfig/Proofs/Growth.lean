import AacConfig.Proofs.Continuation
import AacConfig.Proofs.Streaming

/-!
# Growing inputs

What decoding says of a byte string stays true, as far as it can, when more
bytes are put behind it (`DecoderConfig.decode_append`). Only a lack of bits
is cured by more of them, and only the extensions behind the core coder are
looked for by the number of bits left; everything else in front of them is
settled by the bits that it reads.

`Steady` says of a production that more bits behind change nothing about it
unless the bits ran out, which is so of every streaming production, and
`KeepsRefusals` that they change nothing about its refusals. With guards a
production has only the second property.
-/

namespace AacConfig

/-! ## States with more bits behind -/

/-- The second state is the first one with more bits behind. -/
structure DecodeState.Grows (state grown : DecodeState) : Prop where
  covered : state.Covered
  grownCovered : grown.Covered
  config : grown.config = state.config
  remaining : state.remaining <+: grown.remaining

namespace DecodeState.Grows

variable {state grown : DecodeState}

theorem advance (grows : state.Grows grown) {count : Nat}
    (enough : count ≤ state.remaining.length) :
    (state.advance count).Grows (grown.advance count) where
  covered := grows.covered.advance enough
  grownCovered := grows.grownCovered.advance (Nat.le_trans enough grows.remaining.length_le)
  config := grows.config
  remaining := by
    obtain ⟨rest, same⟩ := grows.remaining
    rw [remaining_advance, remaining_advance, ← same, List.drop_append_of_le_length enough]
    exact List.prefix_append _ rest

theorem available_le (grows : state.Grows grown) :
    state.reader.available ≤ grown.reader.available := by
  rw [← grows.covered.length_remaining, ← grows.grownCovered.length_remaining]
  exact grows.remaining.length_le

theorem log (grows : state.Grows grown) (event : Log.Event) :
    (state.log event).Grows (grown.log event) :=
  ⟨grows.covered, grows.grownCovered, grows.config, grows.remaining⟩

theorem amend (grows : state.Grows grown) (change : DecoderConfig → DecoderConfig) :
    (state.amend change).Grows (grown.amend change) where
  covered := grows.covered
  grownCovered := grows.grownCovered
  config := congrArg change grows.config
  remaining := grows.remaining

theorem refl (covered : state.Covered) : state.Grows state :=
  ⟨covered, covered, rfl, List.prefix_refl _⟩

theorem start (prior : DecoderConfig) (data more : List UInt8) :
    (DecodeState.start prior data).Grows (.start prior (data ++ more)) where
  covered := covered_start prior data
  grownCovered := covered_start prior (data ++ more)
  config := rfl
  remaining := by
    rw [remaining_start, remaining_start, Bits.ofBytes_append]
    exact List.prefix_append _ _

end DecodeState.Grows

namespace Production

variable {α β : Type}

/-! ## Steady productions -/

/-- More bits behind do not change why a production is refused, unless the bits ran out. -/
def KeepsRefusals (production : Production α) : Prop :=
  ∀ ⦃state grown stop reason⦄, state.Grows grown → production state = .error reason stop →
    reason.isTruncated = false →
    ∃ reached, production grown = .error reason reached ∧ stop.Grows reached

/-- More bits behind change neither what a production grants nor why it is refused, unless
the bits ran out. -/
structure Steady (production : Production α) : Prop where
  granted : ∀ ⦃state grown stop value⦄, state.Grows grown → production state = .ok value stop →
    ∃ reached, production grown = .ok value reached ∧ stop.Grows reached
  refused : KeepsRefusals production

/-- A production that is refused only where the bits run out has no other refusal to keep. -/
theorem KeepsRefusals.of_refusesOnly {production : Production α}
    (only : RefusesOnly (fun _ => False) production) : KeepsRefusals production := by
  intro state grown stop reason _ refused lasting
  rcases only state reason stop refused with short | other
  · rw [short] at lasting
    cases lasting
  · exact other.elim

theorem KeepsRefusals.bind_of_steady {first : Production α} {second : α → Production β}
    (steady : Steady first) (keeps : ∀ value, KeepsRefusals (second value)) :
    KeepsRefusals (first >>= second) := by
  intro state grown stop reason grows refused lasting
  cases found : first state with
  | error earlier middle =>
      rw [bind_of_error found] at refused
      cases refused
      obtain ⟨reached, same, behind⟩ := steady.refused grows found lasting
      exact ⟨reached, bind_of_error same second, behind⟩
  | ok value middle =>
      rw [bind_of_ok found] at refused
      obtain ⟨reached, same, behind⟩ := steady.granted grows found
      obtain ⟨last, again, ended⟩ := keeps value behind refused lasting
      exact ⟨last, (bind_of_ok same second).trans again, ended⟩

/-- Behind a first part that keeps its refusals, a rest that has none adds none. -/
theorem KeepsRefusals.bind_of_refusesOnly {first : Production α} {second : α → Production β}
    (keeps : KeepsRefusals first) (only : ∀ value, RefusesOnly (fun _ => False) (second value)) :
    KeepsRefusals (first >>= second) := by
  intro state grown stop reason grows refused lasting
  cases found : first state with
  | error earlier middle =>
      rw [bind_of_error found] at refused
      cases refused
      obtain ⟨reached, same, behind⟩ := keeps grows found lasting
      exact ⟨reached, bind_of_error same second, behind⟩
  | ok value middle =>
      rw [bind_of_ok found] at refused
      rcases only value middle reason stop refused with short | other
      · rw [short] at lasting
        cases lasting
      · exact other.elim

/-! ## Streaming productions -/

/-- More bits behind change nothing that a streaming production grants, and both readers move by
as many bits. -/
theorem Streaming.granted {count : Nat} {production : Production α}
    (streaming : Streaming count production) :
    ∀ ⦃state grown stop value⦄, state.Grows grown → production state = .ok value stop →
      ∃ width reached, production grown = .ok value reached ∧ stop.Grows reached ∧
        stop.reader = state.reader.advance width ∧
        reached.reader = grown.reader.advance width := by
  -- by the steps. Both runs see the same front, so they take the same bits and keep in step
  induction streaming with
  | pure value =>
      intro state grown stop found grows granted
      obtain ⟨rfl, rfl⟩ := pure_eq_ok_iff.mp granted
      exact ⟨0, grown, rfl, grows, rfl, rfl⟩
  | throw lasting =>
      intro state grown stop value _ granted
      exact absurd granted throw_ne_ok
  | record event =>
      intro state grown stop value grows granted
      cases granted
      exact ⟨0, grown.log event, rfl, grows.log event, rfl, rfl⟩
  | update change =>
      intro state grown stop value grows granted
      cases granted
      exact ⟨0, grown.amend change, rfl, grows.amend change, rfl, rfl⟩
  | config =>
      intro state grown stop value grows granted
      cases granted
      exact ⟨0, grown, by rw [← grows.config]; rfl, grows, rfl, rfl⟩
  | @take α width value step takes =>
      intro state grown stop found grows granted
      rw [takes grows.covered] at granted
      split at granted
      · rename_i fits
        cases granted
        have still := Nat.le_trans fits grows.available_le
        rw [← grows.covered.length_remaining] at fits
        obtain ⟨more, same⟩ := grows.remaining
        refine ⟨width, grown.advance width, ?_, grows.advance fits, rfl, rfl⟩
        rw [takes grows.grownCovered, if_pos still, ← same, List.take_append_of_le_length fits]
      · cases granted
  | bind start rest startGranted restGranted =>
      intro state grown stop value grows granted
      obtain ⟨found, middle, read, last⟩ := bind_eq_ok_iff.mp granted
      obtain ⟨first, reached, same, behind, moved, grownMoved⟩ := startGranted grows read
      obtain ⟨second, ended, again, settled, wentOn, grownWentOn⟩ := restGranted found behind last
      refine ⟨first + second, ended, (bind_of_ok same _).trans again, settled, ?_, ?_⟩
      · rw [wentOn, moved, BitReader.advance_advance]
      · rw [grownWentOn, grownMoved, BitReader.advance_advance]
  | weaken streaming fits ih => exact ih

/-- Only a lack of bits can keep a streaming production from being what it is. -/
theorem Streaming.steady {count : Nat} {production : Production α}
    (streaming : Streaming count production) : Steady production where
  granted := by
    intro state grown stop value grows granted
    obtain ⟨_, reached, same, behind, -, -⟩ := streaming.granted grows granted
    exact ⟨reached, same, behind⟩
  refused := by
    induction streaming with
    | pure value => exact .of_refusesOnly (.pure value)
    | throw lasting =>
        intro state grown stop reason grows refused _
        cases refused
        exact ⟨grown, rfl, grows⟩
    | record event => exact .of_refusesOnly (.record event)
    | update change => exact .of_refusesOnly (.update change)
    | config => exact .of_refusesOnly .config
    | take takes =>
        intro state grown stop reason grows refused lasting
        rw [takes grows.covered] at refused
        split at refused
        · cases refused
        · cases refused
          cases lasting
    -- the induction is on refusals; what the first part grants was shown above
    | bind start rest startRefused restRefused =>
        refine .bind_of_steady ⟨?_, startRefused⟩ restRefused
        intro state grown stop value grows granted
        obtain ⟨_, reached, same, behind, -, -⟩ := start.granted grows granted
        exact ⟨reached, same, behind⟩
    | weaken streaming fits refused => exact refused

/-! ## Guards -/

theorem KeepsRefusals.absorbing {production : Production Unit} (keeps : KeepsRefusals production) :
    KeepsRefusals (absorbing production) := by
  intro state grown stop reason grows refused lasting
  simp only [Production.absorbing] at refused
  split at refused
  · cases refused
  · rename_i other
    obtain ⟨reached, same, behind⟩ := keeps grows refused lasting
    refine ⟨reached, ?_, behind⟩
    simp only [Production.absorbing, same]
    split
    · rename_i feature middle found
      cases found
      exact absurd refused (other feature stop)
    · rfl

/-- Where enough bits were left for a guard, enough are left with more bits behind. -/
theorem Guarded.keepsRefusals {production : Production Unit} (guarded : Guarded production) :
    KeepsRefusals production := by
  induction guarded with
  | streaming streaming => exact streaming.steady.refused
  | behind start rest keeps => exact .bind_of_steady start.steady keeps
  | before start rest granted keeps => exact keeps.bind_of_refusesOnly granted
  | @guard width inner inside keeps =>
      intro state grown stop reason grows refused lasting
      simp only [Production.guarded] at refused ⊢
      split at refused
      · rename_i many
        rw [if_pos (Nat.le_trans many grows.available_le)]
        exact keeps grows refused lasting
      · cases refused
  | absorbing inside keeps => exact keeps.absorbing

/-! ## What a granted configuration settles -/

section Settled

variable {state grown stop : DecodeState} {undecoded : Bool}

theorem Steady.ends {production : Production Unit} (steady : Steady production)
    (grows : state.Grows grown) (ends : production.Ends state undecoded stop) :
    ∃ reached, production.Ends grown undecoded reached ∧ stop.Grows reached := by
  cases ends with
  | granted ended =>
      obtain ⟨reached, same, behind⟩ := steady.granted grows ended
      exact ⟨reached, .granted same, behind⟩
  | undecoded ended =>
      obtain ⟨reached, same, behind⟩ := steady.refused grows ended rfl
      exact ⟨reached, .undecoded same, behind⟩

theorem Ends.unique {production : Production Unit} {other : DecodeState} {ignored : Bool}
    (first : production.Ends state undecoded stop) (second : production.Ends state ignored other) :
    stop = other := by
  rcases first with first | first
  · exact ((ends_of_ok_iff first).mp second).2.symm
  · exact ((ends_of_unsupported_iff first).mp second).2.symm

theorem absorbing_ne_unsupported {production : Production Unit} {feature : Unsupported} :
    absorbing production state ≠ .error (.unsupported feature) stop := by
  intro refused
  simp only [absorbing] at refused
  split at refused
  · cases refused
  · rename_i other
    exact other feature stop refused

/-- A state in front of a core coder: nothing is said of extensions yet, or they came in
front. -/
structure InFront (state : DecodeState) : Prop where
  covered : state.Covered
  layout : ∃ channels, state.config.layout = .ofNumber channels
  extension : state.config.extension = {} ∨
    state.config.extension.objectType = ObjectType.spectralBandReplication

theorem inFront_of_preamble (covered : state.Covered) (granted : preamble state = .ok () stop) :
    InFront stop := by
  obtain ⟨_, _, behind⟩ := Streaming.preamble.steady.granted (.refl covered) granted
  obtain ⟨header, -, -, extended⟩ := preamble_eq_ok_iff.mp granted
  rcases frontExtension_eq_ok_iff.mp extended with ⟨-, rfl⟩ | ⟨-, announcement, -, -, rfl⟩
  · exact ⟨behind.covered, ⟨header.channels, rfl⟩, .inl rfl⟩
  · exact ⟨behind.covered, ⟨header.channels, rfl⟩, .inr rfl⟩

/-- All of a record but its extensions is what the flags of the core coder leave behind. -/
theorem coreFlags_ends_of_coreCoder_leaves (front : InFront state) {config : DecoderConfig}
    (left : coreCoder.Leaves state config) :
    ∃ undecoded stop extension, coreFlags.Ends state undecoded stop ∧
      config = { stop.config with extension } := by
  obtain ⟨channels, layout⟩ := front.layout
  obtain ⟨core, left⟩ := coreCoder_leaves_iff.mp left
  rcases absorbing_body_leaves_iff.mp left with ⟨stop, ends, rfl⟩ | ⟨stop, ends, left⟩
  · exact ⟨true, stop, stop.config.extension, ends, rfl⟩
  · obtain ⟨_, _, behind⟩ := Streaming.coreFlags.steady.ends (.refl front.covered) ends
    have kept : stop.config.extension = state.config.extension := by
      obtain ⟨flags, close, -, -, -, rfl⟩ := (coreFlags_ends_iff core layout).mp ends
      rfl
    rcases front.extension with plain | announced
    · obtain ⟨extension, -, same⟩ :=
        (trailing_leaves_iff behind.covered (kept.trans plain)).mp left
      exact ⟨false, stop, extension, ends, same⟩
    · rw [← kept] at announced
      obtain ⟨_, granted, rfl⟩ := left
      rw [trailing_of_announced announced] at granted
      cases granted
      exact ⟨false, stop, stop.config.extension, ends, rfl⟩

/-- More bits behind a granted configuration do not make it one that is not decoded. -/
theorem whole_ne_unsupported (grows : state.Grows grown) {config : DecoderConfig}
    (left : whole.Leaves state config) {feature : Unsupported} :
    whole grown ≠ .error (.unsupported feature) stop := by
  obtain ⟨front, granted, left⟩ := whole_leaves_iff.mp left
  obtain ⟨reached, again, behind⟩ := Streaming.preamble.steady.granted grows granted
  have core := (coreCoder_leaves_iff.mp left).1
  rw [← behind.config] at core
  rw [whole, bind_of_ok again, coreCoder_of_isCore core]
  exact absorbing_ne_unsupported

/-- More bits behind a granted configuration change nothing in its record but extensions. -/
theorem whole_leaves_same (grows : state.Grows grown) {config other : DecoderConfig}
    (left : whole.Leaves state config) (right : whole.Leaves grown other) :
    { other with extension := config.extension } = config := by
  obtain ⟨front, granted, left⟩ := whole_leaves_iff.mp left
  obtain ⟨grownFront, grownGranted, right⟩ := whole_leaves_iff.mp right
  obtain ⟨reached, again, behind⟩ := Streaming.preamble.steady.granted grows granted
  obtain rfl : reached = grownFront := by
    rw [again] at grownGranted
    cases grownGranted
    rfl
  -- both records come from the same flags, and the flags say all but the extensions
  obtain ⟨undecoded, stop, extension, ends, rfl⟩ :=
    coreFlags_ends_of_coreCoder_leaves (inFront_of_preamble grows.covered granted) left
  obtain ⟨_, grownStop, _, grownEnds, rfl⟩ :=
    coreFlags_ends_of_coreCoder_leaves (inFront_of_preamble grows.grownCovered again) right
  obtain ⟨_, flagged, settled⟩ := Streaming.coreFlags.steady.ends behind ends
  rw [← grownEnds.unique flagged] at settled
  simp only [settled.config]

end Settled

end Production

namespace Stream

/-! ## Extensions with more bits behind -/

/-- A tail that signals extensions keeps them, but parametric stereo may start behind it. -/
theorem Tail.grow {bits : List Bool} {extension : Extension} (tail : Tail bits extension)
    (signalled : extension ≠ {}) (more : List Bool) :
    ∃ psPresent : Bool, (extension.psPresent → psPresent) ∧
      Tail (bits ++ more) { extension with psPresent } := by
  have many : Production.syncExtensionWidth ≤ bits.length := by
    rw [← Nat.not_lt]
    exact fun few => signalled (tail_eq_default tail few)
  rcases tail.append many more with same | ⟨without, -, -, psPresent, -, -, -, grown⟩
  · exact ⟨extension.psPresent, id, same⟩
  · refine ⟨psPresent, ?_, grown⟩
    rw [without]
    nofun

/-- A configuration that signals extensions stays one with more bits behind. -/
theorem Written.grow {bits : List Bool} {config : DecoderConfig} (written : Written bits config)
    (signalled : config.extension ≠ {}) (more : List Bool) :
    ∃ psPresent : Bool, (config.extension.psPresent → psPresent) ∧
      Written (bits ++ more)
        { config with extension := { config.extension with psPresent } } := by
  rcases written.front_or_ignored with ignored | ⟨front, tail, rfl, -, behind, rewritten⟩
  · exact ⟨config.extension.psPresent, id, ignored more⟩
  -- only the tail can go on, and what stands in front of it may be followed by any tail
  · obtain ⟨psPresent, kept, grown⟩ := behind.grow signalled more
    refine ⟨psPresent, kept, ?_⟩
    rw [List.append_assoc]
    exact rewritten grown

end Stream

namespace DecoderConfig

/-! ## Byte strings with more bytes behind -/

section Append

variable {data : List UInt8} {config : DecoderConfig}

theorem decode_append_of_refused {reason : DecodeError} (refused : decode data = .error reason)
    (lasting : reason.isTruncated = false) (more : List UInt8) :
    decode (data ++ more) = .error reason := by
  obtain ⟨stop, ended⟩ := decode_eq_error_iff.mp refused
  obtain ⟨reached, same, -⟩ :=
    Production.Guarded.whole.keepsRefusals (.start {} data more) ended lasting
  exact decode_eq_error_iff.mpr ⟨reached, same⟩

theorem decode_append_ne_unsupported (decoded : decode data = .ok config) (more : List UInt8)
    (feature : Unsupported) : decode (data ++ more) ≠ .error (.unsupported feature) := by
  intro refused
  obtain ⟨stop, ended⟩ := decode_eq_error_iff.mp refused
  exact Production.whole_ne_unsupported (.start {} data more)
    (decode_eq_ok_iff_leaves.mp decoded) ended

theorem decode_append_same {more : List UInt8} {grown : DecoderConfig}
    (decoded : decode data = .ok config) (again : decode (data ++ more) = .ok grown) :
    { grown with extension := config.extension } = config :=
  Production.whole_leaves_same (.start {} data more) (decode_eq_ok_iff_leaves.mp decoded)
    (decode_eq_ok_iff_leaves.mp again)

theorem decode_append_of_signalled (decoded : decode data = .ok config)
    (signalled : config.extension ≠ {}) (more : List UInt8) :
    ∃ psPresent : Bool, (config.extension.psPresent → psPresent) ∧
      decode (data ++ more) =
        .ok { config with extension := { config.extension with psPresent } } := by
  obtain ⟨psPresent, kept, grown⟩ :=
    (written_of_decode decoded).grow signalled (Bits.ofBytes more)
  rw [← Bits.ofBytes_append] at grown
  exact ⟨psPresent, kept, decode_of_written grown⟩

end Append

/-- The answer for a byte string and the answer with more bytes behind it. A refusal stays,
unless the bits ran out, so that the start of a byte string that is decoded is decoded too or
too short. A record keeps all but its extensions, if a longer one is decoded at all, and never
turns out to need a feature that is not decoded. Extensions that are signalled stay, and only
parametric stereo may be added to them. -/
theorem decode_append (data more : List UInt8) :
    (∀ reason, decode data = .error reason → reason.isTruncated = false →
      decode (data ++ more) = .error reason) ∧
    (∀ grown, decode (data ++ more) = .ok grown →
      (∃ config, decode data = .ok config) ∨
      ∃ needed position available,
        decode data = .error (.truncated needed position available)) ∧
    (∀ config, decode data = .ok config →
      (∀ feature, decode (data ++ more) ≠ .error (.unsupported feature)) ∧
      ∀ grown, decode (data ++ more) = .ok grown →
        { grown with extension := config.extension } = config) ∧
    ∀ config, decode data = .ok config → config.extension ≠ {} →
      ∃ psPresent : Bool, (config.extension.psPresent → psPresent) ∧
        decode (data ++ more) =
          .ok { config with extension := { config.extension with psPresent } } := by
  refine ⟨?_, ?_, ?_, ?_⟩
  · intro reason refused lasting
    exact decode_append_of_refused refused lasting more
  · intro grown decoded
    cases found : decode data with
    | ok config => exact .inl ⟨config, rfl⟩
    | error reason =>
        cases reason with
        | truncated needed position available => exact .inr ⟨needed, position, available, rfl⟩
        | reservedFrequencyIndex index =>
            rw [decode_append_of_refused found rfl more] at decoded
            cases decoded
        | unsupported feature =>
            rw [decode_append_of_refused found rfl more] at decoded
            cases decoded
  · intro config decoded
    exact ⟨decode_append_ne_unsupported decoded more,
      fun _ again => decode_append_same decoded again⟩
  · intro config decoded signalled
    exact decode_append_of_signalled decoded signalled more

/-- Replication alone in five bytes, to which two more add parametric stereo. -/
def replicated : DecoderConfig where
  objectType := ObjectType.aacLowComplexity
  frequency := ⟨7, 22050⟩
  layout := .mono
  channelCount := 1
  extension :=
    { objectType := ObjectType.spectralBandReplication, sbrPresent := true,
      frequency := ⟨4, 44100⟩ }

theorem decode_append_replicated :
    (decode [0x13, 0x88, 0x56, 0xE5, 0xA5] = .ok replicated ∧ replicated.extension ≠ {} ∧
      ∃ psPresent : Bool, (replicated.extension.psPresent → psPresent) ∧
        decode ([0x13, 0x88, 0x56, 0xE5, 0xA5] ++ [0x48, 0x80]) =
          .ok { replicated with extension := { replicated.extension with psPresent } }) ∧
    decode ([0x1A, 0x10] ++ [0x48, 0x80]) = .error (.unsupported (.objectType 3)) :=
  ⟨⟨rfl, by decide, (decode_append _ _).2.2.2 replicated rfl (by decide)⟩,
    (decode_append [0x1A, 0x10] _).1 _ rfl rfl⟩

end DecoderConfig

end AacConfig
