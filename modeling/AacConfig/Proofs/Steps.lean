import AacConfig.Decode
import AacConfig.Proofs.Reads

/-!
# Steps of a production

What the single steps of a production do to the state it works on. Reading
steps are granted exactly where the code of their value is in front
(`Production.flag_eq_ok_iff` and its siblings) and then only move the reader;
the others only log or change the record, and are never refused.

`RefusesOnly` says for which reasons steps are refused when the bits do not run
out, and `Supported` that a feature that is not decoded is none of them. Both
pass to sequences, so they are proved of a production by looking at its steps.
-/

namespace AacConfig

open Log

/-! ## States -/

namespace DecodeState

/-- The bits in front of the reader. -/
def remaining (state : DecodeState) : List Bool :=
  state.reader.remaining

/-- The data hold every bit that the reader may give out. -/
def Covered (state : DecodeState) : Prop :=
  state.reader.Covered

section Fields

variable (state : DecodeState)

@[simp] theorem remaining_advance (count : Nat) :
    (state.advance count).remaining = state.remaining.drop count :=
  BitReader.remaining_advance state.reader count

@[simp] theorem remaining_log (event : Event) :
    (state.log event).remaining = state.remaining := rfl

@[simp] theorem remaining_amend (change : DecoderConfig → DecoderConfig) :
    (state.amend change).remaining = state.remaining := rfl

@[simp] theorem remaining_extend (change : Extension → Extension) :
    (state.extend change).remaining = state.remaining := rfl

@[simp] theorem advance_zero : state.advance 0 = state := by
  simp only [advance, BitReader.advance_zero]

@[simp] theorem config_advance (count : Nat) : (state.advance count).config = state.config := rfl

@[simp] theorem config_log (event : Event) : (state.log event).config = state.config := rfl

@[simp] theorem verbosity_log (event : Event) :
    (state.log event).verbosity = state.verbosity := rfl

/-- A log at the greatest verbosity takes every event. -/
theorem events_log {state : DecodeState} (heard : state.verbosity = .trace) (event : Event) :
    (state.log event).events = state.events ++ [event] := by
  rw [log, heard, visible_trace]

@[simp] theorem config_amend (change : DecoderConfig → DecoderConfig) :
    (state.amend change).config = change state.config := rfl

@[simp] theorem config_extend (change : Extension → Extension) :
    (state.extend change).config =
      { state.config with extension := change state.config.extension } := rfl

@[simp] theorem advance_advance (first second : Nat) :
    (state.advance first).advance second = state.advance (first + second) := by
  simp only [advance, BitReader.advance_advance]

end Fields

section Remaining

variable {state : DecodeState}

theorem Covered.length_remaining (covered : state.Covered) :
    state.remaining.length = state.reader.available :=
  BitReader.Covered.length_remaining covered

theorem Covered.advance (covered : state.Covered) {count : Nat}
    (enough : count ≤ state.remaining.length) : (state.advance count).Covered :=
  BitReader.Covered.advance covered (covered.length_remaining ▸ enough)

/-- A code in front of the reader is followed by what is left behind it. -/
theorem remaining_eq_append {front : List Bool} (starts : front <+: state.remaining) :
    state.remaining = front ++ (state.advance front.length).remaining := by
  rw [remaining_advance]
  exact (List.prefix_iff_eq_append.mp starts).symm

theorem remaining_advance_of_eq_append {front rest : List Bool}
    (split : state.remaining = front ++ rest) :
    (state.advance front.length).remaining = rest := by
  rw [remaining_advance, split, List.drop_left]

end Remaining

@[simp] theorem remaining_start (prior : DecoderConfig) (data : List UInt8) :
    (start prior data).remaining = Bits.ofBytes data :=
  BitReader.remaining_ofBytes data

theorem covered_start (prior : DecoderConfig) (data : List UInt8) : (start prior data).Covered :=
  BitReader.covered_ofBytes data

end DecodeState

theorem DecoderConfig.overwrite_eq (prior : DecoderConfig) (data : List UInt8) :
    overwrite prior data = Production.whole.attempt (.start prior data) := rfl

namespace Production

/-! ## Steps that read nothing -/

section Bookkeeping

variable {α : Type} (state : DecodeState)

theorem record_eq (event : Event) : record event state = .ok () (state.log event) := rfl

theorem record_bind (event : Event) (next : Unit → Production α) :
    (record event >>= next) state = next () (state.log event) := rfl

theorem update_bind (change : DecoderConfig → DecoderConfig) (next : Unit → Production α) :
    (update change >>= next) state = next () (state.amend change) := rfl

theorem updateExtension_bind (change : Extension → Extension) (next : Unit → Production α) :
    (updateExtension change >>= next) state = next () (state.extend change) := rfl

theorem config_bind (next : DecoderConfig → Production α) :
    (config >>= next) state = next state.config state := rfl

theorem available_bind (next : Nat → Production α) :
    (available >>= next) state = next state.reader.available state := rfl

theorem get_bind (next : DecodeState → Production α) :
    (get >>= next) state = next state state := rfl

end Bookkeeping

/-! ## Steps that read -/

section Granted

variable {state stop : DecodeState}

theorem ofReading_eq_ok_iff {α : Type} {reading : Reading α} {value : α} :
    ofReading reading state = .ok value stop ↔
      ∃ next, reading state.reader = .ok value next ∧ stop = { state with reader := next } := by
  simp only [ofReading]
  cases reading state.reader with
  | error reason refused => simp
  | ok found next =>
      constructor
      · intro granted
        cases granted
        exact ⟨next, rfl, rfl⟩
      · rintro ⟨_, same, rfl⟩
        cases same
        rfl

theorem flag_eq_ok_iff {value : Bool} :
    flag state = .ok value stop ↔ [value] <+: state.remaining ∧ stop = state.advance 1 := by
  simp only [flag, ofReading_eq_ok_iff, BitReader.readBit_eq_ok_iff]
  constructor
  · intro given
    obtain ⟨next, ⟨front, rfl⟩, rfl⟩ := given
    exact ⟨front, rfl⟩
  · rintro ⟨front, rfl⟩
    exact ⟨_, ⟨front, rfl⟩, rfl⟩

theorem number_eq_ok_iff {width value : Nat} :
    number width state = .ok value stop ↔
      value < 2 ^ width ∧ Bits.ofNat width value <+: state.remaining ∧
        stop = state.advance width := by
  simp only [number, ofReading_eq_ok_iff,
    BitReader.readField_eq_ok_iff (Nat.le_refl width)]
  constructor
  · intro given
    obtain ⟨next, ⟨fits, front, rfl⟩, rfl⟩ := given
    exact ⟨fits, front, rfl⟩
  · rintro ⟨fits, front, rfl⟩
    exact ⟨_, ⟨fits, front, rfl⟩, rfl⟩

/-- Where enough bits are left, some number is read. -/
theorem number_of_le (width : Nat) (enough : width ≤ state.remaining.length) :
    ∃ value, value < 2 ^ width ∧ Bits.ofNat width value <+: state.remaining ∧
      number width state = .ok value (state.advance width) := by
  obtain ⟨fits, front⟩ := Bits.ofNat_prefix_iff.mpr ⟨enough, rfl⟩
  exact ⟨_, fits, front, number_eq_ok_iff.mpr ⟨fits, front, rfl⟩⟩

theorem skip_eq_ok_iff {width : Nat} {value : Unit} :
    skip width state = .ok value stop ↔
      width ≤ state.remaining.length ∧ stop = state.advance width := by
  simp only [skip, ofReading_eq_ok_iff, BitReader.skip_eq_ok_iff]
  constructor
  · intro given
    obtain ⟨next, ⟨enough, rfl⟩, rfl⟩ := given
    exact ⟨enough, rfl⟩
  · rintro ⟨enough, rfl⟩
    exact ⟨_, ⟨enough, rfl⟩, rfl⟩

/-- An object type is granted and logged exactly where its code is in front. -/
theorem objectType_eq_ok_iff {code : ObjectType} :
    objectType state = .ok code stop ↔
      code.IsCodable ∧ code.bits <+: state.remaining ∧
        stop = (state.advance code.bits.length).log (.objectType code) := by
  simp only [objectType, bind_eq_ok_iff, ofReading_eq_ok_iff, ObjectType.read_eq_ok_iff,
    record_bind, pure_eq_ok_iff]
  constructor
  · intro given
    obtain ⟨_, _, ⟨_, ⟨codable, front, rfl⟩, rfl⟩, rfl, rfl⟩ := given
    exact ⟨codable, front, rfl⟩
  · intro given
    obtain ⟨codable, front, rfl⟩ := given
    exact ⟨code, _, ⟨_, ⟨codable, front, rfl⟩, rfl⟩, rfl, rfl⟩

/-- A sampling frequency is granted and logged exactly where its code is in front. -/
theorem frequency_eq_ok_iff {value : SamplingFrequency} :
    frequency state = .ok value stop ↔
      value.IsSignalled ∧ value.bits <+: state.remaining ∧
        stop = (state.advance value.bits.length).log (.frequency value) := by
  simp only [frequency, bind_eq_ok_iff, ofReading_eq_ok_iff, SamplingFrequency.read_eq_ok_iff,
    record_bind, pure_eq_ok_iff]
  constructor
  · intro given
    obtain ⟨_, _, ⟨_, ⟨signalled, front, rfl⟩, rfl⟩, rfl, rfl⟩ := given
    exact ⟨signalled, front, rfl⟩
  · intro given
    obtain ⟨signalled, front, rfl⟩ := given
    exact ⟨value, _, ⟨_, ⟨signalled, front, rfl⟩, rfl⟩, rfl, rfl⟩

end Granted

end Production

/-! ## Reasons of a refusal -/

/-- The steps are refused only where the bits run out or for other reasons of a kind. -/
def RefusesOnly {σ α : Type} (others : DecodeError → Prop) (steps : EStateM DecodeError σ α) :
    Prop :=
  ∀ start reason stop, steps start = .error reason stop → reason.isTruncated ∨ others reason

namespace RefusesOnly

variable {σ α β : Type} {others : DecodeError → Prop}

theorem pure (value : α) : RefusesOnly others (pure value : EStateM DecodeError σ α) := by
  intro start reason stop refused
  cases refused

theorem throw {reason : DecodeError} (other : others reason) :
    RefusesOnly others (throw reason : EStateM DecodeError σ α) := by
  intro start found stop refused
  cases refused
  exact .inr other

theorem bind {first : EStateM DecodeError σ α} {second : α → EStateM DecodeError σ β}
    (before : RefusesOnly others first) (after : ∀ value, RefusesOnly others (second value)) :
    RefusesOnly others (first >>= second) := by
  intro start reason stop refused
  cases found : first start with
  | error earlier reached =>
      rw [bind_of_error found] at refused
      cases refused
      exact before start reason stop found
  | ok value middle =>
      rw [bind_of_ok found] at refused
      exact after value middle reason stop refused

theorem ite {condition : Prop} [Decidable condition] {yes no : EStateM DecodeError σ α}
    (first : RefusesOnly others yes) (second : RefusesOnly others no) :
    RefusesOnly others (if condition then yes else no) := by
  split
  · exact first
  · exact second

/-- A step that is made only under a condition, and a rest that follows in any case. -/
theorem optional {condition : Prop} [Decidable condition] {step : EStateM DecodeError σ β}
    {rest : EStateM DecodeError σ α} (start : RefusesOnly others step)
    (behind : RefusesOnly others rest) :
    RefusesOnly others (if condition then step >>= fun _ => rest else rest) :=
  ite (bind start fun _ => behind) behind

theorem pass (capacity count : Nat) : RefusesOnly others (BitReader.pass capacity count) := by
  intro reader reason stop refused
  unfold BitReader.pass at refused
  split at refused
  · cases refused
    exact .inl rfl
  · split at refused
    · cases refused
      exact .inl rfl
    · split at refused
      · cases refused
        exact .inl rfl
      · cases refused

theorem readField (capacity count : Nat) :
    RefusesOnly others (BitReader.readField capacity count) :=
  bind (pass capacity count) fun _ => pure _

theorem ofReading {reading : Reading α} (only : RefusesOnly others reading) :
    RefusesOnly others (Production.ofReading reading) := by
  intro state reason stop refused
  unfold Production.ofReading at refused
  cases read : reading state.reader with
  | error found reached =>
      rw [read] at refused
      cases refused
      exact only state.reader reason _ read
  | ok value reached =>
      rw [read] at refused
      cases refused

theorem flag : RefusesOnly others Production.flag :=
  ofReading (bind (pass 1 1) fun _ => pure _)

theorem number (width : Nat) : RefusesOnly others (Production.number width) :=
  ofReading (readField width width)

theorem skip (width : Nat) : RefusesOnly others (Production.skip width) :=
  ofReading (bind (pass width width) fun _ => pure _)

theorem record (event : Event) : RefusesOnly others (Production.record event) := by
  intro state reason stop refused
  cases refused

theorem update (change : DecoderConfig → DecoderConfig) :
    RefusesOnly others (Production.update change) := by
  intro state reason stop refused
  cases refused

theorem config : RefusesOnly others Production.config := by
  intro state reason stop refused
  cases refused

theorem available : RefusesOnly others Production.available := by
  intro state reason stop refused
  cases refused

theorem objectType : RefusesOnly others Production.objectType := by
  refine bind (ofReading (bind (readField 8 5) fun code => ?_)) fun _ =>
    bind (record _) fun _ => pure _
  split
  · exact bind (readField 8 6) fun _ => pure _
  · exact pure _

/-- A sampling frequency is refused for its index too. -/
theorem frequency (reserved : ∀ index, others (.reservedFrequencyIndex index)) :
    RefusesOnly others Production.frequency := by
  refine bind (ofReading (bind (readField 8 4) fun index => ?_)) fun _ =>
    bind (record _) fun _ => pure _
  split
  · exact bind (readField 32 24) fun _ => pure _
  · split
    · exact pure _
    · exact throw (reserved _)

end RefusesOnly

/-- The steps are never refused for a feature that is not decoded. -/
abbrev Supported {σ α : Type} (steps : EStateM DecodeError σ α) : Prop :=
  RefusesOnly (fun reason => reason.isUnsupported = false) steps

theorem RefusesOnly.ne_unsupported {σ α : Type} {steps : EStateM DecodeError σ α}
    (supported : Supported steps) {start stop : σ} {feature : Unsupported} :
    steps start ≠ .error (.unsupported feature) stop := by
  intro refused
  -- an unsupported feature is no lack of bits, and it is what the other reasons leave out
  rcases supported start _ stop refused with short | other
  · cases short
  · cases other

/-- Only the rest of a sequence may be refused for a feature if its first part never is. -/
theorem bind_eq_unsupported_iff {σ α β : Type} {first : EStateM DecodeError σ α}
    {second : α → EStateM DecodeError σ β} (supported : Supported first) {start stop : σ}
    {feature : Unsupported} :
    (first >>= second) start = .error (.unsupported feature) stop ↔
      ∃ value middle, first start = .ok value middle ∧
        second value middle = .error (.unsupported feature) stop := by
  rw [bind_eq_error_iff, or_iff_right supported.ne_unsupported]

end AacConfig
