import AacConfig.DecoderConfig.WellFormed
import AacConfig.Proofs.Grammar

/-!
# The invariant of a record

Whatever bytes are decoded into a record, and wherever that stops, its fields
fit together (`DecoderConfig.wellFormed_of_mem_overwriteAll`). A run fills the
record in field by field, and most fields may only be filled in because of
what the fields before them say. `Production.Keeps` therefore relates what is
known of the record in front of a production to what is known behind it, and
asks for a well-formed record behind every refusal.

That a record is complete once decoding succeeds is read off the grammar, not
off the run.
-/

namespace AacConfig

/-! ## Changes of a well-formed record -/

theorem SamplingFrequency.IsSignalled.ne_default {frequency : SamplingFrequency}
    (signalled : frequency.IsSignalled) : frequency ≠ {} := by
  rintro rfl
  rcases signalled with listed | ⟨written, -⟩
  · cases listed
  · cases written

namespace Extension.WellFormed

variable {extension : Extension}

/-- Extensions of which only an object type and the flag of replication are known. -/
theorem ofFlag {code : ObjectType} {sbrPresent : Bool}
    (signalling : sbrPresent → code = ObjectType.spectralBandReplication ∨
      code = ObjectType.resilientBitSliced) :
    Extension.WellFormed { objectType := code, sbrPresent } where
  psPresent := nofun
  signalledBy := signalling
  stereoSignalledBy := nofun
  frequency := .inr rfl
  ownFrequency := fun changed => absurd rfl changed

theorem replicating {code : ObjectType}
    (signalling : code = ObjectType.spectralBandReplication ∨
      code = ObjectType.resilientBitSliced) :
    Extension.WellFormed { objectType := code, sbrPresent := true } :=
  ofFlag fun _ => signalling

theorem ofObjectType (code : ObjectType) : Extension.WellFormed { objectType := code } :=
  ofFlag nofun

/-- Extensions that a header announces. -/
theorem announce (well : extension.WellFormed) (psPresent : Bool) :
    Extension.WellFormed
      { extension with
        objectType := ObjectType.spectralBandReplication, sbrPresent := true, psPresent } :=
  { well with
    psPresent := fun _ => rfl
    signalledBy := fun _ => .inl rfl
    stereoSignalledBy := fun _ => rfl
    ownFrequency := fun _ => rfl }

theorem setFrequency (well : extension.WellFormed) (present : extension.sbrPresent)
    {frequency : SamplingFrequency} (signalled : frequency.IsSignalled) :
    Extension.WellFormed { extension with frequency } :=
  { well with
    frequency := .inl signalled
    ownFrequency := fun _ => present }

theorem setPsPresent (well : extension.WellFormed) (present : extension.sbrPresent)
    (signalledBy : extension.objectType = ObjectType.spectralBandReplication) (psPresent : Bool) :
    Extension.WellFormed { extension with psPresent } :=
  { well with
    psPresent := fun _ => present
    stereoSignalledBy := fun _ => signalledBy }

end Extension.WellFormed

namespace DecoderConfig

/-- No flag of a core coder is filled in yet. -/
def Unflagged (config : DecoderConfig) : Prop :=
  config.frameLengthFlag = false ∧ config.dependsOnCoreCoder = false ∧ config.coreCoderDelay = 0

/-- At most a header is filled in yet. -/
def Blank (config : DecoderConfig) : Prop :=
  config.Unflagged ∧ config.extension = {}

/-- Extensions are not filled in yet, or came in front of the core coder. -/
def Announced (config : DecoderConfig) : Prop :=
  config.extension = {} ∨
    config.extension.objectType = ObjectType.spectralBandReplication

/-- A record with announced replication and without flags of a core coder. -/
def Replicated (config : DecoderConfig) : Prop :=
  config.Unflagged ∧ config.extension.objectType = ObjectType.spectralBandReplication ∧
    config.extension.sbrPresent

/-- A record in front of the flags of a decoded core coder. -/
def Flaggable (config : DecoderConfig) : Prop :=
  Stream.IsCore config.objectType ∧ config.coreCoderDelay = 0 ∧ config.Announced

/-- The extensions that an object type alone signals. -/
def Named (code : ObjectType) (config : DecoderConfig) : Prop :=
  config.extension = { objectType := code }

/-- Extensions of an object type whose replication was flagged or not. -/
def Flagged (code : ObjectType) (used : Bool) (config : DecoderConfig) : Prop :=
  config.extension.objectType = code ∧ (used → config.extension.sbrPresent)

namespace WellFormed

variable {config : DecoderConfig}

theorem initial : WellFormed {} where
  extension := .ofObjectType 0
  frequency := .inr rfl
  layout := rfl
  layoutNumber := by decide
  channelCount := rfl
  delay := by decide
  ownDelay := fun delayed => absurd rfl delayed
  objectType := .inl (by decide)
  flags := by
    rintro (flagged | flagged | delayed)
    · cases flagged
    · cases flagged
    · exact absurd rfl delayed

theorem setObjectType (well : config.WellFormed) (unflagged : config.Unflagged)
    {code : ObjectType} (codable : code.IsCodable) :
    WellFormed { config with objectType := code } :=
  { well with
    objectType := codable
    flags := by
      obtain ⟨short, independent, undelayed⟩ := unflagged
      rintro (flagged | flagged | delayed)
      · rw [short] at flagged
        cases flagged
      · rw [independent] at flagged
        cases flagged
      · exact absurd undelayed delayed }

theorem setFrequency (well : config.WellFormed) {frequency : SamplingFrequency}
    (signalled : frequency.IsSignalled) : WellFormed { config with frequency } :=
  { well with frequency := .inl signalled }

theorem setLayout (well : config.WellFormed) {number : Nat} (fits : number < 16) :
    WellFormed
      { config with
        layout := .ofNumber number
        channelCount := (ChannelLayout.ofNumber number).channelCount } :=
  { well with
    layout := by rw [ChannelLayout.number_ofNumber]
    layoutNumber := by rwa [ChannelLayout.number_ofNumber]
    channelCount := rfl }

theorem setExtension (well : config.WellFormed) {extension : Extension}
    (fitting : extension.WellFormed) : WellFormed { config with extension } :=
  { well with extension := fitting }

theorem setFrameLengthFlag (well : config.WellFormed) (core : Stream.IsCore config.objectType)
    (frameLengthFlag : Bool) : WellFormed { config with frameLengthFlag } :=
  { well with flags := fun _ => core }

theorem setDependsOnCoreCoder (well : config.WellFormed)
    (core : Stream.IsCore config.objectType) (undelayed : config.coreCoderDelay = 0)
    (dependsOnCoreCoder : Bool) : WellFormed { config with dependsOnCoreCoder } :=
  { well with
    ownDelay := fun delayed => absurd undelayed delayed
    flags := fun _ => core }

theorem setCoreCoderDelay (well : config.WellFormed) (core : Stream.IsCore config.objectType)
    {delay : Nat} (fits : delay < 2 ^ 14) (own : delay ≠ 0 → config.dependsOnCoreCoder) :
    WellFormed { config with coreCoderDelay := delay } :=
  { well with
    delay := fits
    ownDelay := own
    flags := fun _ => core }

end WellFormed

end DecoderConfig

namespace Production

open DecoderConfig (Unflagged Blank Announced Replicated Flaggable Named Flagged)

/-! ## What a production keeps -/

/-- Run on a well-formed record with a property, the production leaves a well-formed record
behind even if it is refused, and one with a further property if it is granted. -/
def Keeps {α : Type} (before : DecoderConfig → Prop) (production : Production α)
    (after : α → DecoderConfig → Prop) : Prop :=
  ∀ ⦃state⦄, state.config.WellFormed → before state.config →
    match production state with
    | .ok value stop => stop.config.WellFormed ∧ after value stop.config
    | .error _ stop => stop.config.WellFormed

namespace Keeps

variable {α β : Type} {before : DecoderConfig → Prop}

theorem pure {after : α → DecoderConfig → Prop} {value : α}
    (known : ∀ config, before config → after value config) :
    Keeps before (pure value) after :=
  fun state well given => ⟨well, known state.config given⟩

theorem throw {after : α → DecoderConfig → Prop} (reason : DecodeError) :
    Keeps before (throw reason) after :=
  fun _ well _ => well

theorem bind {middle : α → DecoderConfig → Prop} {after : β → DecoderConfig → Prop}
    {first : Production α} {second : α → Production β} (start : Keeps before first middle)
    (rest : ∀ value, Keeps (middle value) (second value) after) :
    Keeps before (first >>= second) after := by
  intro state well given
  have reached := start well given
  cases found : first state with
  | error reason stop =>
      rw [found] at reached
      rw [bind_of_error found]
      exact reached
  | ok value stop =>
      rw [found] at reached
      rw [bind_of_ok found]
      exact rest value reached.1 reached.2

theorem weaken {stronger : DecoderConfig → Prop} {production : Production α}
    {after further : α → DecoderConfig → Prop} (keeps : Keeps before production after)
    (given : ∀ config, stronger config → before config)
    (known : ∀ value config, after value config → further value config) :
    Keeps stronger production further := by
  intro state well strong
  have reached := keeps well (given state.config strong)
  cases found : production state with
  | error reason stop =>
      rw [found] at reached
      exact reached
  | ok value stop =>
      rw [found] at reached
      exact ⟨reached.1, known value stop.config reached.2⟩

theorem ite {after : α → DecoderConfig → Prop} {condition : Prop} [Decidable condition]
    {yes no : Production α} (first : condition → Keeps before yes after)
    (second : ¬ condition → Keeps before no after) :
    Keeps before (if condition then yes else no) after := by
  split
  · exact first ‹_›
  · exact second ‹_›

/-- A step that is made only under a condition, and a rest that follows in any case. -/
theorem optional {after : α → DecoderConfig → Prop} {condition : Prop} [Decidable condition]
    {step : Production Unit} {rest : Production α} (first : Keeps before step fun _ => before)
    (second : Keeps before rest after) :
    Keeps before (if condition then step >>= fun _ => rest else rest) after :=
  ite (fun _ => bind first fun _ => second) fun _ => second

theorem record (event : Log.Event) : Keeps before (record event) fun _ => before :=
  fun _ well given => ⟨well, given⟩

theorem config : Keeps before config fun _ => before :=
  fun _ well given => ⟨well, given⟩

theorem available : Keeps before available fun _ => before :=
  fun _ well given => ⟨well, given⟩

/-- A change has to keep the record well-formed, by what is known of it. -/
theorem update {change : DecoderConfig → DecoderConfig} (after : DecoderConfig → Prop)
    (fits : ∀ config, config.WellFormed → before config →
      (change config).WellFormed ∧ after (change config)) :
    Keeps before (update change) fun _ => after :=
  fun state well given => fits state.config well given

/-- A read leaves the record alone, and something may be known of what it grants. -/
theorem ofReading {reading : Reading α} {known : α → Prop}
    (granted : ∀ {reader next value}, reading reader = .ok value next → known value) :
    Keeps before (ofReading reading) fun value config => before config ∧ known value := by
  intro state well given
  unfold Production.ofReading
  cases found : reading state.reader with
  | error reason next => exact well
  | ok value next => exact ⟨well, given, granted found⟩

theorem flag : Keeps before flag fun _ => before :=
  weaken (ofReading fun _ => trivial) (fun _ given => given) fun _ _ reached => reached.1

theorem skip (width : Nat) : Keeps before (skip width) fun _ => before :=
  weaken (ofReading fun _ => trivial) (fun _ given => given) fun _ _ reached => reached.1

theorem number {width : Nat} :
    Keeps before (number width) fun value config => before config ∧ value < 2 ^ width :=
  ofReading fun read =>
    ((BitReader.readField_eq_ok_iff (Nat.le_refl width)).mp read).1

theorem objectType :
    Keeps before objectType fun code config => before config ∧ code.IsCodable :=
  bind (ofReading fun read => (ObjectType.read_eq_ok_iff.mp read).1) fun _ =>
    bind (record _) fun _ => pure fun _ reached => reached

theorem frequency :
    Keeps before frequency fun value config => before config ∧ value.IsSignalled :=
  bind (ofReading fun read => (SamplingFrequency.read_eq_ok_iff.mp read).1) fun _ =>
    bind (record _) fun _ => pure fun _ reached => reached

/-! ## Productions -/

theorem header : Keeps Blank header fun _ => Blank := by
  refine bind objectType fun code => bind (update Blank ?_) fun _ => ?_
  · intro config well given
    exact ⟨well.setObjectType given.1.1 given.2, given.1⟩
  refine bind frequency fun core => bind (update Blank ?_) fun _ => ?_
  · intro config well given
    exact ⟨well.setFrequency given.2, given.1⟩
  refine bind number fun channels => bind (update Blank ?_) fun _ => ?_
  · intro config well given
    exact ⟨well.setLayout given.2, given.1⟩
  exact record _

theorem explicitExtension :
    Keeps Unflagged explicitExtension fun _ => Replicated := by
  refine bind config fun current => bind (update Replicated ?_) fun _ => ?_
  · intro config well given
    exact ⟨well.setExtension (well.extension.announce _), given, rfl, rfl⟩
  -- replication is announced before its frequency is known, so a refusal leaves it without one
  refine bind frequency fun doubled => bind (update Replicated ?_) fun _ => ?_
  · intro config well given
    exact ⟨well.setExtension (well.extension.setFrequency given.1.2.2 given.2), given.1⟩
  refine bind objectType fun core => bind (update Replicated ?_) fun _ => ?_
  · intro config well given
    exact ⟨well.setObjectType given.1.1 given.2, given.1⟩
  exact optional (skip 4) (bind config fun _ => record _)

theorem frontExtension :
    Keeps Blank frontExtension
      fun _ config => config.Unflagged ∧ config.Announced := by
  refine bind config fun current => ite (fun _ => ?_) fun _ => ?_
  · exact weaken explicitExtension (fun _ given => given.1) fun _ _ reached =>
      ⟨reached.1, .inr reached.2.1⟩
  · exact pure fun _ given => ⟨given.1, .inl given.2⟩

theorem delay (dependent : Bool) :
    Keeps before (delay dependent) fun value config =>
      before config ∧ value < 2 ^ 14 ∧ (value ≠ 0 → dependent) := by
  refine ite (fun set => ?_) fun _ => ?_
  · exact weaken number (fun _ given => given)
      fun _ _ reached => ⟨reached.1, reached.2, fun _ => set⟩
  · exact pure fun _ given => ⟨given, by omega, fun delayed => absurd rfl delayed⟩

/-- Of the flags, the delay stands on the one before it. -/
theorem leadingFlags : Keeps Flaggable leadingFlags fun _ => Announced := by
  -- from the first flag on the record has to name a decoded core coder, which the header left
  refine bind flag fun frameLength => bind (update Flaggable ?_) fun _ => ?_
  · intro config well given
    exact ⟨well.setFrameLengthFlag given.1 frameLength, given⟩
  refine bind flag fun dependent => bind (update (fun config =>
    Flaggable config ∧ config.dependsOnCoreCoder = dependent) ?_) fun _ => ?_
  · intro config well given
    exact ⟨well.setDependsOnCoreCoder given.1 given.2.1 dependent, given, rfl⟩
  -- behind the delay nothing needs the flag in front of it any more
  refine bind (delay dependent) fun value => bind (update Announced ?_) fun _ => ?_
  · rintro config well ⟨⟨flaggable, rfl⟩, fits, own⟩
    exact ⟨well.setCoreCoderDelay flaggable.1 fits own, flaggable.2.2⟩
  exact bind flag fun _ => bind (record _) fun _ => pure fun _ given => given

theorem closingFlags (extended : Bool) :
    Keeps before (closingFlags extended) fun _ => before := by
  refine bind config fun current => optional (throw _) (optional (skip 3) ?_)
  refine ite (fun _ => optional (skip 16) (optional (skip 3) ?_)) fun _ => pure fun _ given => given
  exact bind flag fun _ => ite (fun _ => throw _) fun _ => pure fun _ given => given

theorem coreFlags : Keeps Flaggable coreFlags fun _ => Announced :=
  bind leadingFlags closingFlags

theorem sbrFlag {code : ObjectType}
    (signalling : code = ObjectType.spectralBandReplication ∨
      code = ObjectType.resilientBitSliced) :
    Keeps (Named code) sbrFlag fun used => Flagged code used := by
  refine bind flag fun used => bind (update (Flagged code used) ?_) fun _ => ?_
  · intro config well named
    refine ⟨well.setExtension ?_, congrArg Extension.objectType named, id⟩
    rw [named]
    exact .ofFlag fun _ => signalling
  -- the frequency may be filled in because the flag in front of it is set
  refine ite (fun set => ?_) fun _ => pure fun _ given => given
  refine bind frequency fun doubled => bind (update (Flagged code used) ?_) fun _ =>
    pure fun _ given => given
  intro config well given
  exact ⟨well.setExtension (well.extension.setFrequency (given.1.2 set) given.2), given.1⟩

/-- Parametric stereo is looked for only behind replication that is used. -/
theorem psExtension :
    Keeps (Flagged ObjectType.spectralBandReplication true) psExtension fun _ _ => True := by
  refine bind available fun _ => ite (fun _ => ?_) fun _ => pure fun _ _ => trivial
  refine bind number fun word => ite (fun _ => ?_) fun _ => pure fun _ _ => trivial
  refine bind flag fun psPresent => update (fun _ => True) ?_
  intro config well given
  exact ⟨well.setExtension (well.extension.setPsPresent (given.1.2 rfl) given.1.1 psPresent),
    trivial⟩

theorem extensionFields (code : ObjectType) :
    Keeps (Named code) (extensionFields code) fun _ _ => True := by
  refine ite (fun sbr => ?_) fun _ => ite (fun sliced => ?_) fun _ => pure fun _ _ => trivial
  · subst sbr
    refine bind (sbrFlag (.inl rfl)) fun used => ite (fun set => ?_) fun _ => ?_
    · subst set
      exact psExtension
    · exact pure fun _ _ => trivial
  · refine bind (sbrFlag (.inr sliced)) fun _ => ?_
    exact weaken (skip 4) (fun _ _ => trivial) fun _ _ _ => trivial

theorem extensionWord :
    Keeps (fun config => config.extension = {}) extensionWord fun _ _ => True := by
  refine bind number fun word => ite (fun _ => ?_) fun _ => ?_
  · exact weaken (record _) (fun _ _ => trivial) fun _ _ _ => trivial
  · refine bind objectType fun code => bind (update (Named code) ?_) fun _ => ?_
    · rintro config well ⟨⟨plain, -⟩, -⟩
      rw [Named, plain]
      exact ⟨well.setExtension (.ofObjectType code), rfl⟩
    · exact bind (extensionFields code) fun _ => bind config fun _ => record _

theorem trailing : Keeps Announced trailing fun _ _ => True := by
  intro state well announced
  rw [trailing_eq]
  by_cases looked : state.config.extension.objectType ≠ ObjectType.spectralBandReplication ∧
      syncExtensionWidth ≤ state.reader.available
  · -- extensions are looked for only if none came in front, and then there are none yet
    rw [if_pos looked]
    exact extensionWord well (announced.resolve_right looked.1)
  · rw [if_neg looked]
    exact ⟨well, trivial⟩

theorem absorbing {production : Production Unit} (keeps : Keeps before production fun _ _ => True) :
    Keeps before (absorbing production) fun _ _ => True := by
  intro state well given
  have reached := keeps well given
  unfold Production.absorbing
  cases found : production state with
  | ok value stop =>
      rw [found] at reached
      exact reached
  | error reason stop =>
      rw [found] at reached
      cases reason with
      | unsupported feature => exact ⟨reached, trivial⟩
      | truncated needed position available => exact reached
      | reservedFrequencyIndex index => exact reached

theorem coreCoder :
    Keeps (fun config => config.Unflagged ∧ config.Announced) coreCoder fun _ _ => True := by
  intro state well given
  by_cases core : Stream.IsCore state.config.objectType
  · rw [coreCoder_of_isCore core]
    exact absorbing (bind coreFlags fun _ => trailing) well ⟨core, given.1.2.2, given.2⟩
  · rw [coreCoder_of_not_isCore core]
    exact well

end Keeps

/-- A configuration leaves a well-formed record behind, whatever record it is decoded over. -/
theorem wellFormed_attempt_whole (state : DecodeState) :
    (whole.attempt state).config.WellFormed := by
  have filled : Keeps Blank
      (header >>= fun _ => frontExtension >>= fun _ => coreCoder) fun _ _ => True :=
    .bind .header fun _ => .bind .frontExtension fun _ => .coreCoder
  -- the record is emptied first, so nothing is asked of the one before
  have opened : whole state =
      (header >>= fun _ => frontExtension >>= fun _ => coreCoder) (state.amend fun _ => {}) := by
    rw [whole, preamble, bind_assoc, update_bind, bind_assoc]
  have reached := @filled (state.amend fun _ => {}) .initial ⟨⟨rfl, rfl, rfl⟩, rfl⟩
  rw [← opened] at reached
  unfold attempt
  cases found : whole state with
  | ok _ stop =>
      rw [found] at reached
      exact reached.1
  | error reason stop =>
      rw [found] at reached
      exact reached

end Production

namespace Stream

/-! ## Records of written configurations -/

theorem Flags.Codable.getD_lt {flags : Flags} (codable : flags.Codable) :
    flags.delay.getD 0 < 2 ^ 14 := by
  cases given : flags.delay with
  | none => decide
  | some delay => exact codable delay given

/-- A record of a header, a decoded core coder and its flags is complete if its extensions
are. -/
theorem Header.Codable.complete {header : Header} (codable : header.Codable) {core : ObjectType}
    (isCore : IsCore core) {flags : Flags} (delay : flags.Codable) {extension : Extension}
    (fitting : extension.WellFormed)
    (replicated : extension.sbrPresent → extension.frequency.IsSignalled) :
    (header.record core flags extension).Complete where
  extension := fitting
  frequency := .inl codable.frequency
  layout := by rw [Header.record, ChannelLayout.number_ofNumber]
  layoutNumber := by
    rw [Header.record, ChannelLayout.number_ofNumber]
    exact codable.channels
  channelCount := rfl
  delay := delay.getD_lt
  ownDelay := by
    intro delayed
    show flags.delay.isSome
    cases given : flags.delay with
    | none =>
        rw [Header.record, given] at delayed
        exact absurd rfl delayed
    | some delay => rfl
  objectType := isCore.isCodable
  flags := fun _ => isCore
  core := isCore
  signalled := codable.frequency
  replicated := replicated

theorem Tail.complete {bits : List Bool} {extension : Extension} (tail : Tail bits extension) :
    extension.WellFormed ∧ (extension.sbrPresent → extension.frequency.IsSignalled) := by
  cases tail with
  | short => exact ⟨.ofObjectType 0, nofun⟩
  | foreign => exact ⟨.ofObjectType 0, nofun⟩
  | unknown => exact ⟨.ofObjectType _, nofun⟩
  | absent => exact ⟨.ofObjectType _, nofun⟩
  | replication signalled =>
      have flagged := Extension.WellFormed.replicating (.inl rfl)
      exact ⟨flagged.setFrequency rfl signalled, fun _ => signalled⟩
  | stereo psPresent signalled =>
      have flagged := Extension.WellFormed.replicating (.inl rfl)
      exact ⟨(flagged.setFrequency rfl signalled).setPsPresent rfl rfl psPresent,
        fun _ => signalled⟩
  | slicedAlone => exact ⟨.ofObjectType _, nofun⟩
  | sliced signalled =>
      have flagged := Extension.WellFormed.replicating (.inr rfl)
      exact ⟨flagged.setFrequency rfl signalled, fun _ => signalled⟩

/-- The record of a written configuration is complete. -/
theorem Written.complete {bits : List Bool} {config : DecoderConfig}
    (written : Written bits config) : config.Complete := by
  cases written with
  | undecoded codable core delay => exact codable.complete core delay (.ofObjectType 0) nofun
  | plain codable core delay closing behind =>
      exact codable.complete core delay behind.complete.1 behind.complete.2
  | @explicit header frequency core flags close rest ignored codable announces signalled isCore
      delay closing =>
      have announced := (Extension.WellFormed.ofObjectType 0).announce
        (header.objectType == ObjectType.parametricStereo)
      exact codable.complete isCore delay (announced.setFrequency rfl signalled) fun _ => signalled

end Stream

theorem ChannelLayout.exists_eq_unassigned_iff {layout : ChannelLayout}
    (own : layout = .ofNumber layout.number) :
    (∃ number, layout = .unassigned number) ↔ 8 ≤ layout.number := by
  rw [← ofNumber_eq_unassigned_iff, ← own]
  constructor
  · rintro ⟨number, rfl⟩
    rfl
  · intro unassigned
    exact ⟨_, unassigned⟩

namespace DecoderConfig

/-! ## Records that are decoded into again and again -/

theorem wellFormed_overwrite (prior : DecoderConfig) (data : List UInt8) :
    (overwrite prior data).config.WellFormed :=
  Production.wellFormed_attempt_whole (.start prior data)

theorem complete_overwrite {prior : DecoderConfig} {data : List UInt8}
    (granted : (overwrite prior data).refusal = none) : (overwrite prior data).config.Complete := by
  rw [overwrite_eq, Production.attempt] at granted ⊢
  cases found : Production.whole (.start prior data) with
  | error reason stop =>
      rw [found] at granted
      cases granted
  | ok _ stop =>
      have written := Production.written_of_whole_leaves (DecodeState.covered_start prior data)
        ⟨stop, found, rfl⟩
      exact written.complete

/-- The attempts to decode byte strings one after the other into the same record. -/
def overwriteAll (prior : DecoderConfig) : List (List UInt8) → List Attempt
  | [] => []
  | data :: rest =>
      overwrite prior data :: overwriteAll (overwrite prior data).config rest

theorem eq_overwrite_of_mem {prior : DecoderConfig} {inputs : List (List UInt8)}
    {attempt : Attempt} (reached : attempt ∈ overwriteAll prior inputs) :
    ∃ before data, attempt = overwrite before data := by
  -- every attempt starts from the record that the one before it has left
  induction inputs generalizing prior with
  | nil => cases reached
  | cons data rest ih =>
      rcases List.mem_cons.mp reached with rfl | later
      · exact ⟨prior, data, rfl⟩
      · exact ih later

/-- However often byte strings are decoded into a record, whatever the record was at first and
wherever an attempt stops, its fields fit together behind each attempt. Behind one that is
granted the record names a decoded core coder and has every frequency that it needs. -/
theorem wellFormed_of_mem_overwriteAll (prior : DecoderConfig) (inputs : List (List UInt8))
    (attempt : Attempt) (reached : attempt ∈ overwriteAll prior inputs) :
    attempt.config.WellFormed ∧
    ((∃ number, attempt.config.layout = .unassigned number) ↔
      8 ≤ attempt.config.layout.number) ∧
    (attempt.refusal = none →
      attempt.config.Complete ∧ attempt.config.frequency ≠ {} ∧
        (attempt.config.extension.sbrPresent → attempt.config.extension.frequency ≠ {})) := by
  obtain ⟨before, data, rfl⟩ := eq_overwrite_of_mem reached
  have well := wellFormed_overwrite before data
  refine ⟨well, ChannelLayout.exists_eq_unassigned_iff well.layout, ?_⟩
  intro granted
  have complete := complete_overwrite granted
  exact ⟨complete, complete.signalled.ne_default,
    fun present => (complete.replicated present).ne_default⟩

/-- A record whose fields do not fit together. -/
def unfitting : DecoderConfig where
  coreCoderDelay := 99999
  extension := { psPresent := true }

theorem wellFormed_of_mem_overwriteAll_unfitting :
    ∃ attempt ∈ overwriteAll unfitting [[0x13], [0x13, 0x88, 0x56, 0xE5, 0xA5, 0x48, 0x80]],
      attempt.refusal = none ∧ attempt.config.Complete ∧
        attempt.config.extension.frequency ≠ {} := by
  -- the first byte alone is too short, and the second attempt starts over
  have reached :
      overwrite (overwrite unfitting [0x13]).config [0x13, 0x88, 0x56, 0xE5, 0xA5, 0x48, 0x80] ∈
        overwriteAll unfitting [[0x13], [0x13, 0x88, 0x56, 0xE5, 0xA5, 0x48, 0x80]] :=
    .tail _ (.head [])
  have granted :
      (overwrite (overwrite unfitting [0x13]).config
        [0x13, 0x88, 0x56, 0xE5, 0xA5, 0x48, 0x80]).refusal = none := rfl
  obtain ⟨-, -, settled⟩ := wellFormed_of_mem_overwriteAll _ _ _ reached
  obtain ⟨complete, -, replicated⟩ := settled granted
  exact ⟨_, reached, granted, complete, replicated rfl⟩

end DecoderConfig

end AacConfig
