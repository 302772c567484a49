import AacConfig.Proofs.Grammar

/-!
# Streaming productions

Most productions look at the bits only by reading them, and it is known
beforehand for how many bits they may ask. `Streaming count production` says
so. It follows how a production is put together, so whatever is true of every
streaming production is an induction over its steps.

Two productions ask for the number of bits left: parametric stereo, and what
stands behind the flags of the core coder. Both do so only to decide whether
to read at all, so a whole configuration is made of streaming productions and
such guards (`Guarded.whole`), and what guards preserve too is another short
induction.
-/

namespace AacConfig

namespace Production

open Log

variable {α β : Type}

/-! ## Steps that take bits -/

/-- A step that takes `width` bits from the front and makes `value` of them, and is refused with
the number of bits left where there are fewer. -/
def Takes (width : Nat) (value : List Bool → α) (step : Production α) : Prop :=
  ∀ ⦃state⦄, state.Covered → step state =
    if width ≤ state.reader.available then
      .ok (value (state.remaining.take width)) (state.advance width)
    else
      .error (.truncated width state.reader.position state.reader.available) state

theorem takes_of_pass {capacity width : Nat} {look : BitReader → α} {value : List Bool → α}
    (narrow : width ≤ capacity)
    (same : ∀ {reader : BitReader}, reader.Covered → width ≤ reader.available →
      look reader = value (reader.remaining.take width)) :
    Takes width value
      (ofReading (BitReader.pass capacity width >>= fun start => pure (look start))) := by
  intro state covered
  have passed := BitReader.Covered.pass_eq covered capacity width
  rw [if_neg (Nat.not_lt.mpr narrow)] at passed
  by_cases fits : width ≤ state.reader.available
  · rw [if_neg (Nat.not_lt.mpr fits)] at passed
    rw [if_pos fits, ofReading, bind_of_ok passed, same covered fits]
    rfl
  · rw [if_pos (Nat.not_le.mp fits)] at passed
    rw [if_neg fits, ofReading, bind_of_error passed]

theorem takes_flag : Takes 1 (fun bits => bits.headD false) flag :=
  takes_of_pass (Nat.le_refl 1) fun covered fits => (covered.headD_take fits).symm

theorem takes_readField {capacity width : Nat} (narrow : width ≤ capacity) :
    Takes width Bits.toNat (ofReading (BitReader.readField capacity width)) := by
  refine takes_of_pass narrow ?_
  intro reader covered fits
  rw [BitReader.toNat_take_remaining]
  rw [covered.length_remaining]
  exact fits

theorem takes_skip (width : Nat) : Takes width (fun _ => ()) (skip width) :=
  takes_of_pass (Nat.le_refl width) fun _ _ => rfl

/-! ## Productions made of such steps -/

/-- A production that looks at the bits only by reading them, and asks for at most `count` bits
from where it starts. -/
inductive Streaming : {α : Type} → (count : Nat) → Production α → Prop
  | pure {α : Type} (value : α) : Streaming 0 (pure value : Production α)
  | throw {α : Type} {reason : DecodeError} (lasting : reason.isTruncated = false) :
      Streaming 0 (throw reason : Production α)
  | record (event : Event) : Streaming 0 (record event)
  | update (change : DecoderConfig → DecoderConfig) : Streaming 0 (update change)
  | config : Streaming 0 config
  | take {α : Type} {width : Nat} {value : List Bool → α} {step : Production α}
      (takes : Takes width value step) : Streaming width step
  | bind {α β : Type} {count more : Nat} {first : Production α} {second : α → Production β}
      (start : Streaming count first) (rest : ∀ value, Streaming more (second value)) :
      Streaming (count + more) (first >>= second)
  | weaken {α : Type} {count limit : Nat} {production : Production α}
      (streaming : Streaming count production) (fits : count ≤ limit) :
      Streaming limit production

theorem ofReading_bind (first : Reading α) (second : α → Reading β) :
    ofReading (first >>= second) = ofReading first >>= fun value => ofReading (second value) := by
  funext state
  simp only [ofReading, bind, EStateM.bind]
  cases first state.reader with
  | error reason reached => rfl
  | ok value reached => rfl

namespace Streaming

theorem ite {condition : Prop} [Decidable condition] {first second : Nat}
    {yes no : Production α} (left : Streaming first yes) (right : Streaming second no) :
    Streaming (max first second) (if condition then yes else no) := by
  split
  · exact left.weaken (Nat.le_max_left first second)
  · exact right.weaken (Nat.le_max_right first second)

/-- A step that is made only under a condition, and a rest that follows in any case. -/
theorem optional {condition : Prop} [Decidable condition] {count more : Nat}
    {step : Production Unit} {rest : Production α} (start : Streaming count step)
    (behind : Streaming more rest) :
    Streaming (count + more) (if condition then step >>= fun _ => rest else rest) := by
  split
  · exact start.bind fun _ => behind
  · exact behind.weaken (Nat.le_add_left more count)

theorem flag : Streaming 1 flag := take takes_flag

theorem number (width : Nat) : Streaming width (number width) :=
  take (takes_readField (Nat.le_refl width))

theorem skip (width : Nat) : Streaming width (skip width) := take (takes_skip width)

theorem objectType : Streaming 11 objectType := by
  have read : Streaming (5 + 6) (ofReading ObjectType.read) := by
    rw [ObjectType.read, ofReading_bind]
    refine bind (take (takes_readField (by omega))) fun code => ?_
    split
    · rw [ofReading_bind]
      exact bind (take (takes_readField (by omega))) fun _ => pure _
    · exact (pure _).weaken (by omega)
  exact read.bind fun _ => (record _).bind fun _ => pure _

theorem frequency : Streaming 28 frequency := by
  have read : Streaming (4 + 24) (ofReading SamplingFrequency.read) := by
    rw [SamplingFrequency.read, ofReading_bind]
    refine bind (take (takes_readField (by omega))) fun index => ?_
    split
    · rw [ofReading_bind]
      exact bind (take (takes_readField (by omega))) fun _ => pure _
    · split
      · exact (pure _).weaken (by omega)
      · exact (throw rfl).weaken (by omega)
  exact read.bind fun _ => (record _).bind fun _ => pure _

theorem header : Streaming 43 header :=
  objectType.bind fun _ => (update _).bind fun _ => frequency.bind fun _ =>
    (update _).bind fun _ => (number 4).bind fun _ => (update _).bind fun _ => record _

theorem explicitExtension : Streaming 43 explicitExtension :=
  config.bind fun _ => (update _).bind fun _ => frequency.bind fun _ => (update _).bind fun _ =>
    objectType.bind fun _ => (update _).bind fun _ =>
    optional (skip 4) (config.bind fun _ => record _)

theorem preamble : Streaming 86 preamble :=
  (update _).bind fun _ => header.bind fun _ => config.bind fun _ => ite explicitExtension (pure _)

theorem leadingFlags : Streaming 17 leadingFlags :=
  flag.bind fun _ => (update _).bind fun _ => flag.bind fun _ => (update _).bind fun _ =>
    (ite (number 14) (pure 0)).bind fun _ => (update _).bind fun _ => flag.bind fun _ =>
    (record _).bind fun _ => pure _

theorem closingFlags (extended : Bool) : Streaming 23 (closingFlags extended) := by
  have payload : Streaming 1
      (Production.flag >>= fun set =>
        if set then MonadExcept.throw (.unsupported .extensionFlagPayload) else Pure.pure ()) :=
    flag.bind fun _ => ite (throw rfl) (pure _)
  exact config.bind fun _ => optional (throw rfl) (optional (skip 3)
    (ite (optional (skip 16) (optional (skip 3) payload)) (pure _)))

theorem coreFlags : Streaming 40 coreFlags :=
  leadingFlags.bind closingFlags

theorem sbrFlag : Streaming 29 sbrFlag :=
  flag.bind fun _ => (update _).bind fun _ =>
    ite (frequency.bind fun _ => (update _).bind fun _ => pure _) (pure _)

theorem bitSliced : Streaming 33 bitSliced :=
  sbrFlag.bind fun _ => skip 4

end Streaming

/-! ## Guards -/

/-- A production that is left out where fewer than `width` bits are left. -/
def guarded (width : Nat) (inner : Production Unit) : Production Unit := fun state =>
  if width ≤ state.reader.available then inner state else .ok () state

theorem available_bind_guard (width : Nat) (inner : Production Unit) :
    (available >>= fun count => if width ≤ count then inner else pure ()) =
      guarded width inner := by
  funext state
  unfold guarded
  rw [available_bind]
  split
  · rfl
  · rfl

/-- A production that asks for the number of bits left at most in guards. Where a guard decides,
the reader is not known to stand at the same place behind it, so what follows reads nothing. -/
inductive Guarded : Production Unit → Prop
  | streaming {count : Nat} {production : Production Unit}
      (streaming : Streaming count production) : Guarded production
  | behind {α : Type} {count : Nat} {first : Production α} {second : α → Production Unit}
      (start : Streaming count first) (rest : ∀ value, Guarded (second value)) :
      Guarded (first >>= second)
  | before {first : Production Unit} {second : Unit → Production Unit} (start : Guarded first)
      (rest : ∀ value, Streaming 0 (second value))
      (granted : ∀ value, RefusesOnly (fun _ => False) (second value)) :
      Guarded (first >>= second)
  | guard (width : Nat) {inner : Production Unit} (inside : Guarded inner) :
      Guarded (guarded width inner)
  | absorbing {production : Production Unit} (inside : Guarded production) :
      Guarded (absorbing production)

theorem Streaming.psWord : Streaming 12 psWord :=
  (number 11).bind fun _ => ite (flag.bind fun _ => update _) (pure _)

theorem psExtension_eq : psExtension = guarded psExtensionWidth psWord :=
  available_bind_guard psExtensionWidth psWord

theorem trailing_eq_bind :
    trailing = config >>= fun current =>
      if current.extension.objectType ≠ ObjectType.spectralBandReplication then
        guarded syncExtensionWidth extensionWord
      else pure () := by
  -- behind the guard the word finds the bits that it would ask for again
  have same : guarded syncExtensionWidth syncExtension =
      guarded syncExtensionWidth extensionWord := by
    funext state
    unfold guarded
    split
    · rename_i many
      exact syncExtension_of_le many
    · rfl
  rw [← same, ← available_bind_guard]
  rfl

namespace Guarded

theorem ite {condition : Prop} [Decidable condition] {yes no : Production Unit}
    (first : Guarded yes) (second : Guarded no) : Guarded (if condition then yes else no) := by
  split
  · exact first
  · exact second

theorem pure : Guarded (pure ()) := .streaming (.pure ())

theorem extensionFields (code : ObjectType) : Guarded (extensionFields code) := by
  refine ite ?_ (ite (.streaming .bitSliced) .pure)
  -- the word of parametric stereo is the only part of the fields that is guarded
  refine .behind .sbrFlag fun _ => ite ?_ .pure
  rw [psExtension_eq]
  exact .guard _ (.streaming .psWord)

theorem extensionWord : Guarded extensionWord := by
  refine .behind (.number 11) fun _ => ite (.streaming (.record _)) ?_
  refine .behind .objectType fun code => .behind (.update _) fun _ => ?_
  exact .before (extensionFields code) (fun _ => Streaming.config.bind fun _ => .record _)
    fun _ => .bind .config fun _ => .record _

theorem trailing : Guarded trailing := by
  rw [trailing_eq_bind]
  exact .behind .config fun _ => ite (.guard _ extensionWord) .pure

theorem coreCoder : Guarded coreCoder :=
  .behind .config fun _ =>
    ite (.absorbing (.behind .coreFlags fun _ => trailing)) (.streaming (.throw rfl))

/-- A whole configuration is made of streaming productions and guards. -/
theorem whole : Guarded whole :=
  .behind .preamble fun _ => coreCoder

end Guarded

end Production

end AacConfig
