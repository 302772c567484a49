import AacConfig.DecoderConfig.Field
import AacConfig.Proofs.Accounts
import AacConfig.Proofs.Growth

/-!
# Footprints

What a run leaves alone and what it settles. A production has a footprint, the
fields that it may fill in; every other field stays as it was, whatever the
result, and only traces are logged (`DecodeState.Touched`).

As long as each part of a sequence fills in fields of its own, nothing that
was filled in is changed later. A run that ends for a lack of bits has then
left every field as it was, or as a run with more bits behind leaves it at its
end (`DecodeState.Underway`). `Production.Fills` puts both together and passes
to sequences of disjoint footprints.
-/

namespace AacConfig

open Log
open DecoderConfig (Field)

/-! ## States on the way -/

/-- Only the given fields differ in the second state, and only traces are logged in between. -/
structure DecodeState.Touched (fields : List Field) (state stop : DecodeState) : Prop where
  others : ∀ field, field ∉ fields → stop.config.get field = state.config.get field
  traced : ∃ logged : List Event, stop.events = state.events ++ logged ∧
    ∀ event ∈ logged, event.severity = .trace
  verbosity : stop.verbosity = state.verbosity

/-- A state on the way from the first state to the last one: every field is as at the start or
as at the end, and what is logged so far is the beginning of all that is logged. -/
structure DecodeState.Underway (start stop last : DecodeState) : Prop where
  fields : ∀ field, stop.config.get field = start.config.get field ∨
    stop.config.get field = last.config.get field
  events : stop.events <+: last.events

/-- The second state is the first one with more bits behind, and the same is logged so far. -/
structure DecodeState.GrowsLogged (state grown : DecodeState) : Prop
    extends state.Grows grown where
  events : grown.events = state.events
  verbosity : grown.verbosity = state.verbosity

namespace DecodeState

variable {state middle stop grown : DecodeState} {fields more : List Field}

namespace Touched

theorem refl (fields : List Field) (state : DecodeState) : state.Touched fields state where
  others := fun _ _ => rfl
  traced := ⟨[], (List.append_nil _).symm, nofun⟩
  verbosity := rfl

theorem trans (first : state.Touched fields middle) (second : middle.Touched more stop) :
    state.Touched (fields ++ more) stop where
  others := by
    intro field outside
    obtain ⟨notFirst, notSecond⟩ := not_or.mp (mt List.mem_append.mpr outside)
    exact (second.others field notSecond).trans (first.others field notFirst)
  traced := by
    obtain ⟨logged, same, quiet⟩ := first.traced
    obtain ⟨further, again, quietToo⟩ := second.traced
    refine ⟨logged ++ further, by rw [again, same, List.append_assoc], ?_⟩
    intro event member
    rcases List.mem_append.mp member with early | late
    · exact quiet event early
    · exact quietToo event late
  verbosity := second.verbosity.trans first.verbosity

theorem weaken (touched : state.Touched fields stop) (wider : ∀ field ∈ fields, field ∈ more) :
    state.Touched more stop where
  others := fun field outside => touched.others field fun inside => outside (wider field inside)
  traced := touched.traced
  verbosity := touched.verbosity

theorem prefix_events (touched : state.Touched fields stop) : state.events <+: stop.events := by
  obtain ⟨logged, same, -⟩ := touched.traced
  exact ⟨logged, same.symm⟩

end Touched

theorem GrowsLogged.start (prior : DecoderConfig) (data more : List UInt8) :
    (DecodeState.start prior data).GrowsLogged (.start prior (data ++ more)) :=
  ⟨.start prior data more, rfl, rfl⟩

end DecodeState

namespace Production

variable {α β : Type}

/-- What a streaming production grants it also grants with more bits behind, and logs the
same. -/
theorem Streaming.granted_logged {count : Nat} {production : Production α}
    (streaming : Streaming count production) :
    ∀ ⦃state grown stop value⦄, state.GrowsLogged grown → production state = .ok value stop →
      ∃ reached, production grown = .ok value reached ∧ stop.GrowsLogged reached := by
  induction streaming with
  | pure value =>
      intro state grown stop found grows granted
      obtain ⟨rfl, rfl⟩ := pure_eq_ok_iff.mp granted
      exact ⟨grown, rfl, grows⟩
  | throw lasting =>
      intro state grown stop value _ granted
      exact absurd granted throw_ne_ok
  | record event =>
      intro state grown stop value grows granted
      cases granted
      refine ⟨grown.log event, rfl, grows.toGrows.log event, ?_, grows.verbosity⟩
      show grown.events ++ visible grown.verbosity [event] =
        state.events ++ visible state.verbosity [event]
      rw [grows.events, grows.verbosity]
  | update change =>
      intro state grown stop value grows granted
      cases granted
      exact ⟨grown.amend change, rfl, grows.toGrows.amend change, grows.events, grows.verbosity⟩
  | config =>
      intro state grown stop value grows granted
      cases granted
      exact ⟨grown, by rw [← grows.config]; rfl, grows⟩
  | @take α width value step takes =>
      intro state grown stop found grows granted
      obtain ⟨_, reached, same, behind, -, -⟩ :=
        (Streaming.take takes).granted grows.toGrows granted
      suffices quiet : reached.events = stop.events ∧ reached.verbosity = stop.verbosity from
        ⟨reached, same, behind, quiet.1, quiet.2⟩
      -- a read logs nothing on either side
      rw [takes grows.covered] at granted
      rw [takes grows.grownCovered] at same
      split at granted
      · split at same
        · injection granted with _ moved
          injection same with _ grownMoved
          rw [← moved, ← grownMoved]
          exact ⟨grows.events, grows.verbosity⟩
        · cases same
      · cases granted
  | bind start rest startGranted restGranted =>
      intro state grown stop value grows granted
      obtain ⟨found, middle, read, last⟩ := bind_eq_ok_iff.mp granted
      obtain ⟨reached, same, behind⟩ := startGranted grows read
      obtain ⟨ended, again, settled⟩ := restGranted found behind last
      exact ⟨ended, (bind_of_ok same _).trans again, settled⟩
  | weaken streaming fits granted => exact granted

/-! ## Footprints of productions -/

/-- A change of a record leaves every field outside of some fields alone. -/
def Changes (fields : List Field) (change : DecoderConfig → DecoderConfig) : Prop :=
  ∀ config field, field ∉ fields → (change config).get field = config.get field

theorem changes_put (field : Field) (value : field.Content) :
    Changes [field] fun config => config.put field value := by
  intro config other outside
  exact config.get_put_of_ne value fun same => outside (List.mem_singleton.mpr same)

theorem Changes.comp {fields more : List Field} {change other : DecoderConfig → DecoderConfig}
    (first : Changes fields change) (second : Changes more other) :
    Changes (fields ++ more) fun config => other (change config) := by
  intro config field outside
  obtain ⟨notFirst, notSecond⟩ := not_or.mp (mt List.mem_append.mpr outside)
  rw [second _ field notSecond, first config field notFirst]

theorem changes_frequency (value : SamplingFrequency) :
    Changes [.frequencyIndex, .frequencyHertz] fun config => { config with frequency := value } :=
  (changes_put .frequencyIndex value.index).comp (changes_put .frequencyHertz value.hertz)

theorem changes_extensionFrequency (value : SamplingFrequency) :
    Changes [.extensionFrequencyIndex, .extensionFrequencyHertz] fun config =>
      { config with extension.frequency := value } :=
  (changes_put .extensionFrequencyIndex value.index).comp
    (changes_put .extensionFrequencyHertz value.hertz)

theorem changes_layout (layout : ChannelLayout) (channelCount : Nat) :
    Changes [.layout, .channelCount] fun config => { config with layout, channelCount } :=
  (changes_put .layout layout).comp (changes_put .channelCount channelCount)

/-- What a header with an extension's type announces of it before its frequency is known. -/
theorem changes_announced (sbrPresent psPresent : Bool) (code : ObjectType) :
    Changes [.extensionObjectType, .sbrPresent, .psPresent] fun config =>
      { config with
        extension :=
          { config.extension with objectType := code, sbrPresent, psPresent } } :=
  (changes_put .extensionObjectType code).comp
    ((changes_put .sbrPresent sbrPresent).comp (changes_put .psPresent psPresent))

/-- Whatever its result, a run touches only the given fields, and one that ends for a lack of
bits is on the way of a run with more bits behind. -/
structure Fills (fields : List Field) (production : Production α) : Prop where
  touches : ∀ state : DecodeState, state.Touched fields (ended (production state))
  underway : ∀ ⦃state grown stop : DecodeState⦄ ⦃needed position available : Nat⦄,
    state.GrowsLogged grown →
    production state = .error (.truncated needed position available) stop →
    state.Underway stop (ended (production grown))

namespace Fills

variable {fields more : List Field}

theorem weaken {production : Production α} (fills : Fills fields production)
    (wider : ∀ field ∈ fields, field ∈ more) : Fills more production where
  touches := fun state => (fills.touches state).weaken wider
  underway := fills.underway

/-- A production that never runs out of bits only has to be looked at for what it touches. -/
theorem of_ne_truncated {production : Production α}
    (touches : ∀ state : DecodeState, state.Touched fields (ended (production state)))
    (never : ∀ {state stop needed position available},
      production state ≠ .error (.truncated needed position available) stop) :
    Fills fields production where
  touches := touches
  underway := fun _ _ _ _ _ _ _ refused => absurd refused never

theorem pure (value : α) : Fills [] (pure value : Production α) :=
  of_ne_truncated (.refl []) nofun

theorem throw {reason : DecodeError} (lasting : reason.isTruncated = false) :
    Fills [] (throw reason : Production α) := by
  refine of_ne_truncated (.refl []) ?_
  intro state stop needed position available refused
  cases refused
  cases lasting

theorem record {event : Event} (quiet : event.severity = .trace) : Fills [] (record event) := by
  refine of_ne_truncated ?_ nofun
  intro state
  refine ⟨fun _ _ => rfl, ⟨visible state.verbosity [event], rfl, ?_⟩, rfl⟩
  intro other member
  rw [List.mem_singleton.mp (List.mem_filter.mp member).1]
  exact quiet

theorem update {change : DecoderConfig → DecoderConfig} (changes : Changes fields change) :
    Fills fields (update change) := by
  refine of_ne_truncated ?_ nofun
  intro state
  exact ⟨changes state.config, ⟨[], (List.append_nil _).symm, nofun⟩, rfl⟩

theorem config : Fills [] config :=
  of_ne_truncated (.refl []) nofun

/-- Reading moves nothing but the reader. -/
theorem ofReading (reading : Reading α) : Fills [] (ofReading reading) := by
  have untouched : ∀ state : DecodeState,
      (ended (Production.ofReading reading state)).config = state.config ∧
        (ended (Production.ofReading reading state)).events = state.events ∧
        (ended (Production.ofReading reading state)).verbosity = state.verbosity := by
    intro state
    unfold Production.ofReading
    split
    · exact ⟨rfl, rfl, rfl⟩
    · exact ⟨rfl, rfl, rfl⟩
  refine ⟨?_, ?_⟩
  · intro state
    obtain ⟨sameConfig, sameEvents, sameVerbosity⟩ := untouched state
    exact ⟨fun field _ => by rw [sameConfig], ⟨[], by rw [sameEvents, List.append_nil], nofun⟩,
      sameVerbosity⟩
  -- a read that is refused is at its start, so the fields are as they were
  · intro state grown stop needed position available grows refused
    obtain ⟨sameConfig, sameEvents, -⟩ := untouched state
    rw [refused] at sameConfig sameEvents
    refine ⟨fun field => .inl (by rw [← sameConfig]; rfl), ?_⟩
    rw [(untouched grown).2.1, grows.events, ← sameEvents]
    exact List.prefix_refl _

/-- What a sequence touches behind its first part. -/
theorem touched_bind {first : Production α} {second : α → Production β}
    (rest : ∀ value, Fills fields (second value)) (state : DecodeState) :
    (ended (first state)).Touched fields (ended ((first >>= second) state)) := by
  cases found : first state with
  | error reason middle =>
      rw [bind_of_error found]
      exact .refl fields middle
  | ok value middle =>
      rw [bind_of_ok found]
      exact (rest value).touches middle

/-- Where a sequence runs out of bits, every field is as at its start, or as a run with more bits
behind leaves it at the end of the first part or of the whole. -/
theorem underway_bind {count : Nat} {first : Production α} {second : α → Production β}
    (streaming : Streaming count first) (start : Fills fields first)
    (rest : ∀ value, Fills more (second value)) {state grown stop : DecodeState}
    {needed position available : Nat} (grows : state.GrowsLogged grown)
    (refused : (first >>= second) state = .error (.truncated needed position available) stop) :
    stop.events <+: (ended ((first >>= second) grown)).events ∧
      ∀ field, stop.config.get field = state.config.get field ∨
        stop.config.get field = (ended (first grown)).config.get field ∨
        stop.config.get field = (ended ((first >>= second) grown)).config.get field := by
  cases found : first state with
  | error reason middle =>
      rw [bind_of_error found] at refused
      cases refused
      have way := start.underway grows found
      have behind : (ended (first grown)).Touched more (ended ((first >>= second) grown)) :=
        touched_bind rest grown
      refine ⟨way.events.trans behind.prefix_events, ?_⟩
      intro field
      exact (way.fields field).imp_right .inl
  | ok value middle =>
      rw [bind_of_ok found] at refused
      obtain ⟨reached, same, behind⟩ := streaming.granted_logged grows found
      have way := (rest value).underway behind refused
      rw [bind_of_ok same]
      refine ⟨way.events, ?_⟩
      intro field
      -- early means as at the end of the first part, which both runs share
      rcases way.fields field with early | late
      · rw [← behind.config] at early
        rw [same]
        exact .inr (.inl early)
      · exact .inr (.inr late)

/-- A rest that fills in other fields than the first part. -/
theorem bind {count : Nat} {first : Production α} {second : α → Production β}
    (streaming : Streaming count first) (start : Fills fields first)
    (rest : ∀ value, Fills more (second value)) (apart : ∀ field ∈ fields, field ∉ more) :
    Fills (fields ++ more) (first >>= second) where
  touches := fun state => (start.touches state).trans (touched_bind rest state)
  underway := by
    intro state grown stop needed position available grows refused
    obtain ⟨events, settled⟩ := underway_bind streaming start rest grows refused
    refine ⟨?_, events⟩
    intro field
    -- what the first part has settled is left alone by the rest
    rcases settled field with early | middle | late
    · exact .inl early
    · by_cases later : field ∈ more
      · rw [(start.touches grown).others field fun own => apart field own later,
          grows.config] at middle
        exact .inl middle
      · rw [(touched_bind rest grown).others field later]
        exact .inr middle
    · exact .inr late

/-- A first part that fills in nothing. -/
theorem reads {count : Nat} {first : Production α} {second : α → Production β}
    (streaming : Streaming count first) (start : Fills [] first)
    (rest : ∀ value, Fills fields (second value)) : Fills fields (first >>= second) :=
  bind streaming start rest nofun

/-- A first part that changes the record. -/
theorem writes {change : DecoderConfig → DecoderConfig} {second : Unit → Production β}
    (changes : Changes fields change) (rest : ∀ value, Fills more (second value))
    (apart : ∀ field ∈ fields, field ∉ more) :
    Fills (fields ++ more) (Production.update change >>= second) :=
  bind (.update change) (update changes) rest apart

/-- A rest that only logs does not matter, whatever is in front of it. -/
theorem before {first : Production α} {second : α → Production β} (start : Fills fields first)
    (rest : ∀ value, Fills [] (second value))
    (granted : ∀ {value state reason stop}, second value state ≠ .error reason stop) :
    Fills fields (first >>= second) where
  touches := fun state =>
    ((start.touches state).trans (touched_bind rest state)).weaken (by simp)
  underway := by
    intro state grown stop needed position available grows refused
    cases found : first state with
    | error reason middle =>
        rw [bind_of_error found] at refused
        cases refused
        have way := start.underway grows found
        have behind : (ended (first grown)).Touched [] (ended ((first >>= second) grown)) :=
          touched_bind rest grown
        refine ⟨?_, way.events.trans behind.prefix_events⟩
        intro field
        rw [behind.others field List.not_mem_nil]
        exact way.fields field
    | ok value middle =>
        rw [bind_of_ok found] at refused
        exact absurd refused granted

theorem ite {condition : Prop} [Decidable condition] {yes no : Production α}
    (first : Fills fields yes) (second : Fills fields no) :
    Fills fields (if condition then yes else no) := by
  split
  · exact first
  · exact second

/-- A step that is made only under a condition, and a rest that follows in any case. -/
theorem optional {condition : Prop} [Decidable condition] {count : Nat}
    {step : Production Unit} {rest : Production α} (streaming : Streaming count step)
    (start : Fills [] step) (behind : Fills fields rest) :
    Fills fields (if condition then step >>= fun _ => rest else rest) :=
  ite (reads streaming start fun _ => behind) behind

theorem guarded {inner : Production Unit} (fills : Fills fields inner) (width : Nat) :
    Fills fields (guarded width inner) where
  touches := by
    intro state
    unfold Production.guarded
    split
    · exact fills.touches state
    · exact .refl fields state
  underway := by
    intro state grown stop needed position available grows refused
    simp only [Production.guarded] at refused ⊢
    split at refused
    · rename_i many
      rw [if_pos (Nat.le_trans many grows.available_le)]
      exact fills.underway grows refused
    · cases refused

/-! ## The productions -/

theorem flag : Fills [] flag := ofReading _

theorem number (width : Nat) : Fills [] (number width) := ofReading _

theorem skip (width : Nat) : Fills [] (skip width) := ofReading _

theorem objectType : Fills [] objectType :=
  before (ofReading _) (fun _ => reads (.record _) (record rfl) fun _ => pure _) nofun

theorem frequency : Fills [] frequency :=
  before (ofReading _) (fun _ => reads (.record _) (record rfl) fun _ => pure _) nofun

theorem header : Fills Field.ofHeader header :=
  reads .objectType objectType fun _ => writes (changes_put .objectType _) (fun _ =>
    reads .frequency frequency fun _ => writes (changes_frequency _) (fun _ =>
    reads (.number 4) (number 4) fun _ => writes (changes_layout _ _) (fun _ =>
    record rfl) (by decide)) (by decide)) (by decide)

theorem explicitFields : Fills
    ([.extensionFrequencyIndex, .extensionFrequencyHertz] ++ ([.objectType] ++ []))
    explicitFields :=
  reads .frequency frequency fun _ => writes (changes_extensionFrequency _) (fun _ =>
    reads .objectType objectType fun _ => writes (changes_put .objectType _) (fun _ =>
    optional (.skip 4) (skip 4) (reads .config config fun _ => record rfl))
    (by decide)) (by decide)

theorem explicitExtension : Fills (.objectType :: Field.ofExtension) explicitExtension := by
  have fills := reads .config config fun current : DecoderConfig =>
    writes (changes_announced true (current.objectType == ObjectType.parametricStereo)
      ObjectType.spectralBandReplication) (fun _ => explicitFields) (by decide)
  exact fills.weaken (by decide)

theorem leadingFlags : Fills Field.ofFlags leadingFlags :=
  reads .flag flag fun _ => writes (changes_put .frameLengthFlag _) (fun _ =>
    reads .flag flag fun _ => writes (changes_put .dependsOnCoreCoder _) (fun _ =>
    reads (.ite (.number 14) (.pure 0)) (ite (number 14) (pure 0)) fun _ =>
    writes (changes_put .coreCoderDelay _) (fun _ =>
    reads .flag flag fun _ => reads (.record _) (record rfl) fun _ =>
    pure _) (by decide)) (by decide)) (by decide)

theorem closingFlags (extended : Bool) : Fills [] (closingFlags extended) := by
  have payload : Fills []
      (Production.flag >>= fun set =>
        if set then MonadExcept.throw (.unsupported .extensionFlagPayload) else Pure.pure ()) :=
    reads .flag flag fun _ => ite (throw rfl) (pure _)
  exact reads .config config fun _ => optional (.throw rfl) (throw rfl) (optional (.skip 3) (skip 3)
    (ite (optional (.skip 16) (skip 16) (optional (.skip 3) (skip 3) payload)) (pure _)))

theorem coreFlags : Fills Field.ofFlags coreFlags :=
  bind .leadingFlags leadingFlags closingFlags (fun _ _ => List.not_mem_nil)

theorem sbrFlag :
    Fills [.sbrPresent, .extensionFrequencyIndex, .extensionFrequencyHertz] sbrFlag :=
  reads .flag flag fun _ => writes (changes_put .sbrPresent _) (fun _ =>
    ite (reads .frequency frequency fun _ => writes (changes_extensionFrequency _) (fun _ =>
      pure _) (fun _ _ => List.not_mem_nil)) ((pure _).weaken nofun)) (by decide)

theorem psExtension : Fills [.psPresent] psExtension := by
  rw [psExtension_eq]
  exact guarded (reads (.number 11) (number 11) fun _ =>
    ite (reads .flag flag fun _ => update (changes_put .psPresent _)) ((pure _).weaken nofun)) _

theorem extensionFields (code : ObjectType) :
    Fills
      ([.sbrPresent, .extensionFrequencyIndex, .extensionFrequencyHertz] ++ [.psPresent])
      (extensionFields code) :=
  ite (bind .sbrFlag sbrFlag (fun _ => ite psExtension ((pure _).weaken nofun)) (by decide))
    (ite ((bind .sbrFlag sbrFlag (fun _ => skip 4) (fun _ _ => List.not_mem_nil)).weaken
      (by decide)) ((pure _).weaken nofun))

theorem extensionWord : Fills Field.ofExtension extensionWord := by
  have fills : Fills
      ([.extensionObjectType] ++
        ([.sbrPresent, .extensionFrequencyIndex, .extensionFrequencyHertz] ++ [.psPresent]))
      Production.extensionWord :=
    reads (.number 11) (number 11) fun _ => ite ((record rfl).weaken nofun)
      (reads .objectType objectType fun _ => writes (changes_put .extensionObjectType _) (fun _ =>
        before (extensionFields _) (fun _ => reads .config config fun _ => record rfl) nofun)
        (by decide))
  exact fills.weaken (by decide)

theorem trailing : Fills Field.ofExtension trailing := by
  rw [trailing_eq_bind]
  exact reads .config config fun _ => ite (guarded extensionWord _) ((pure _).weaken nofun)

/-- The flags of a core coder and the extensions behind them have nothing in common. -/
theorem body : Fills (Field.ofFlags ++ Field.ofExtension) body :=
  bind .coreFlags coreFlags (fun _ => trailing) (by decide)

end Fills

end Production

end AacConfig
