import AacConfig.Proofs.Footprint

/-!
# What settles a part of the record

Whether a run is granted or refused, a part of the record is afterwards what
the bits in front spell of it, or what it was before if they do not spell it as
a whole (`Settled`). `Production.Settles` says so of every run of a production.
It is put together along the steps: a part is settled where it is filled in,
the steps in front only read the bits before it (`Settles.behind`), and those
behind leave it alone (`Settles.before`).
-/

namespace AacConfig

/-- The value is what is spelled, and what it was before where nothing is spelled. -/
structure Settled {γ : Type} (spelled : γ → Prop) (prior value : γ) : Prop where
  found : ∀ content, spelled content → value = content
  kept : (∀ content, ¬ spelled content) → value = prior

namespace Production

variable {α β γ : Type} {view : DecoderConfig → γ}

/-! ## Parts that are left alone -/

/-- No run of the production changes a part of the record. -/
def Spares (view : DecoderConfig → γ) (production : Production α) : Prop :=
  ∀ state : DecodeState, view (ended (production state)).config = view state.config

namespace Spares

/-- A production that fills in no field changes nothing. -/
theorem of_fills {production : Production α} (fills : Fills [] production) :
    Spares view production := by
  intro state
  have same : (ended (production state)).config = state.config :=
    DecoderConfig.eq_of_get_eq fun field => (fills.touches state).others field List.not_mem_nil
  rw [same]

theorem update {change : DecoderConfig → DecoderConfig}
    (apart : ∀ config, view (change config) = view config) : Spares view (update change) :=
  fun state => apart state.config

theorem bind {first : Production α} {second : α → Production β} (start : Spares view first)
    (rest : ∀ value, Spares view (second value)) : Spares view (first >>= second) := by
  intro state
  cases found : first state with
  | error reason middle =>
      rw [bind_of_error found, ← start state, found]
      rfl
  | ok value middle =>
      rw [bind_of_ok found, rest value middle, ← start state, found]
      rfl

theorem ite {condition : Prop} [Decidable condition] {yes no : Production α}
    (first : Spares view yes) (second : Spares view no) :
    Spares view (if condition then yes else no) := by
  split
  · exact first
  · exact second

end Spares

/-! ## Values and their codes -/

/-- The production is granted exactly where the code of a value is in front, and takes it from
the bits. -/
def Reads (code : α → List Bool → Prop) (production : Production α) : Prop :=
  ∀ (state : DecodeState) value rest,
    (∃ stop, production state = .ok value stop ∧ stop.remaining = rest) ↔
      ∃ front, code value front ∧ state.remaining = front ++ rest

/-- A production that is granted where a code is in front, and then takes as many bits. -/
theorem reads_of_ok_iff {codable : α → Prop} {bits : α → List Bool} {production : Production α}
    {after : α → DecodeState → DecodeState}
    (granted : ∀ {state stop value}, production state = .ok value stop ↔
      codable value ∧ bits value <+: state.remaining ∧ stop = after value state)
    (taken : ∀ value state, (after value state).remaining =
      state.remaining.drop (bits value).length) :
    Reads (fun value front => codable value ∧ front = bits value) production := by
  intro state value rest
  simp only [granted]
  constructor
  · rintro ⟨_, ⟨fits, front, rfl⟩, rfl⟩
    refine ⟨bits value, ⟨fits, rfl⟩, ?_⟩
    rw [taken]
    exact List.prefix_iff_eq_append.mp front |>.symm
  · rintro ⟨_, ⟨fits, rfl⟩, split⟩
    refine ⟨_, ⟨fits, ⟨rest, split.symm⟩, rfl⟩, ?_⟩
    rw [taken, split, List.drop_left]

theorem reads_flag : Reads (fun value front => front = [value]) flag := by
  have granted : ∀ {state stop value}, flag state = .ok value stop ↔
      True ∧ [value] <+: state.remaining ∧ stop = state.advance 1 := by
    intro state stop value
    rw [true_and, flag_eq_ok_iff]
  intro state value rest
  rw [reads_of_ok_iff granted (fun _ state => state.remaining_advance 1) state value rest]
  simp

theorem reads_number {width : Nat} :
    Reads (fun value front => value < 2 ^ width ∧ front = Bits.ofNat width value)
      (number width) :=
  reads_of_ok_iff number_eq_ok_iff fun _ _ => by simp

theorem reads_objectType :
    Reads (fun code front => code.IsCodable ∧ front = code.bits) objectType :=
  reads_of_ok_iff objectType_eq_ok_iff fun _ _ => by simp

theorem reads_frequency :
    Reads (fun frequency front => frequency.IsSignalled ∧ front = frequency.bits) frequency :=
  reads_of_ok_iff frequency_eq_ok_iff fun _ _ => by simp

/-! ## Parts that are settled -/

/-- Every run of the production leaves a part of the record as the bits in front spell it, or as
it was before. -/
def Settles (view : DecoderConfig → γ) (spelled : List Bool → γ → Prop)
    (production : Production α) : Prop :=
  ∀ state : DecodeState, Settled (spelled state.remaining) (view state.config)
    (view (ended (production state)).config)

namespace Settles

variable {spelled other : List Bool → γ → Prop}

theorem congr {production : Production α} (settles : Settles view spelled production)
    (same : ∀ bits content, spelled bits content ↔ other bits content) :
    Settles view other production := by
  have equal : spelled = other := funext₂ fun bits content => propext (same bits content)
  rw [← equal]
  exact settles

/-- A part that is left alone is spelled by nothing. -/
theorem of_spares {production : Production α} (spares : Spares view production) :
    Settles view (fun _ _ => False) production :=
  fun state => ⟨nofun, fun _ => spares state⟩

/-- The part is filled in with a given content. -/
theorem update {change : DecoderConfig → DecoderConfig} (content : γ)
    (fills : ∀ config, view (change config) = content) :
    Settles view (fun _ found => found = content) (update change) := by
  intro state
  refine ⟨?_, ?_⟩
  · rintro found rfl
    exact fills state.config
  · intro nothing
    exact absurd rfl (nothing content)

/-- A rest that leaves the part alone. -/
theorem before {first : Production α} {second : α → Production β}
    (settles : Settles view spelled first) (rest : ∀ value, Spares view (second value)) :
    Settles view spelled (first >>= second) := by
  intro state
  have same : view (ended ((first >>= second) state)).config =
      view (ended (first state)).config := by
    cases found : first state with
    | error reason middle => rw [bind_of_error found]; rfl
    | ok value middle => rw [bind_of_ok found]; exact rest value middle
  rw [same]
  exact settles state

/-- A first part that leaves the part alone and takes the code of its value from the bits. -/
theorem behind {code : α → List Bool → Prop} {first : Production α} {second : α → Production β}
    {spelled : α → List Bool → γ → Prop} (reads : Reads code first) (spares : Spares view first)
    (rest : ∀ value, Settles view (spelled value) (second value)) :
    Settles view (fun bits content => ∃ value front rest, code value front ∧
      bits = front ++ rest ∧ spelled value rest content) (first >>= second) := by
  intro state
  have start := spares state
  cases found : first state with
  | error reason middle =>
      rw [found] at start
      rw [bind_of_error found]
      -- nothing is spelled where the first part is refused: its code would have been granted
      refine ⟨?_, fun _ => start⟩
      rintro content ⟨value, front, rest, written, split, -⟩
      obtain ⟨_, granted, -⟩ := (reads state value rest).mpr ⟨front, written, split⟩
      rw [found] at granted
      cases granted
  | ok value middle =>
      rw [found] at start
      rw [bind_of_ok found, ← start]
      have settled := rest value middle
      refine ⟨?_, ?_⟩
      -- a production reads one value from given bits, so the spelling is that of what was found
      · rintro content ⟨_, front, _, written, split, spells⟩
        obtain ⟨_, granted, rfl⟩ := (reads state _ _).mpr ⟨front, written, split⟩
        rw [found] at granted
        cases granted
        exact settled.found content spells
      · intro nothing
        apply settled.kept
        intro content spells
        obtain ⟨front, written, split⟩ := (reads state value _).mp ⟨middle, found, rfl⟩
        exact nothing content ⟨value, front, _, written, split, spells⟩

/-- A flag that is filled in as it is read. -/
theorem flag {view : DecoderConfig → Bool} {second : Bool → Production β}
    (rest : ∀ value, Settles view (fun _ content => content = value) (second value)) :
    Settles view (fun bits content => [content] <+: bits) (Production.flag >>= second) := by
  refine .congr (behind reads_flag (.of_fills .flag) rest) ?_
  intro bits content
  constructor
  · rintro ⟨_, _, rest, rfl, rfl, rfl⟩
    exact ⟨rest, rfl⟩
  · rintro ⟨rest, rfl⟩
    exact ⟨content, _, rest, rfl, rfl, rfl⟩

/-- A first part that fills in something else. -/
theorem updated {change : DecoderConfig → DecoderConfig} {second : Unit → Production β}
    (apart : ∀ config, view (change config) = view config)
    (rest : Settles view spelled (second ())) :
    Settles view spelled (Production.update change >>= second) := by
  intro state
  have settled := rest (state.amend change)
  rw [update_bind, ← apart]
  exact settled

theorem ite {condition : Prop} [Decidable condition] {yes no : Production α}
    (first : Settles view spelled yes) (second : Settles view other no) :
    Settles view (if condition then spelled else other) (if condition then yes else no) := by
  split
  · exact first
  · exact second

/-- A guard that lets pass whatever spells the part. -/
theorem guarded {inner : Production Unit} (settles : Settles view spelled inner) {width : Nat}
    (wide : ∀ {bits content}, spelled bits content → width ≤ bits.length) :
    Settles view spelled (guarded width inner) := by
  intro state
  unfold Production.guarded
  split
  · exact settles state
  · rename_i few
    refine ⟨?_, fun _ => rfl⟩
    intro content spells
    -- too few bits for the guard are too few for what it guards, so nothing is spelled there
    have enough := wide spells
    have left : state.remaining.length ≤ state.reader.available :=
      state.reader.length_remaining_le
    omega

end Settles

end Production

end AacConfig
