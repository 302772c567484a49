import AacConfig.Proofs.Continuation
import AacConfig.Proofs.Streaming

/-!
# Accounts of bits

A run of a production moves forwards, and if it is refused for a lack of bits
it says where it stands, how many bits it asked for and how many are left
(`Accounted`). For a streaming production this is one induction over its
steps (`Production.Streaming.accounts`). The productions that ask for the
number of bits left account for their bits too, and of a whole configuration
no read reaches beyond bit 112 (`Production.Accounts.whole`).

That bound needs more than the widths of the fields: an object type with its
long code is none of a decoded core coder, and extensions with the long code
have no fields.
-/

namespace AacConfig

/-! ## Runs -/

/-- The second state is further on in the same bits, and as much is logged there. -/
structure DecodeState.Leads (state stop : DecodeState) : Prop where
  covered : stop.Covered
  length : stop.reader.length = state.reader.length
  forward : state.reader.position ≤ stop.reader.position
  verbosity : stop.verbosity = state.verbosity

namespace DecodeState.Leads

variable {state middle stop : DecodeState}

theorem refl (covered : state.Covered) : state.Leads state :=
  ⟨covered, rfl, Nat.le_refl _, rfl⟩

theorem trans (first : state.Leads middle) (second : middle.Leads stop) : state.Leads stop where
  covered := second.covered
  length := second.length.trans first.length
  forward := Nat.le_trans first.forward second.forward
  verbosity := second.verbosity.trans first.verbosity

theorem advance (covered : state.Covered) {count : Nat} (fits : count ≤ state.reader.available) :
    state.Leads (state.advance count) where
  covered := BitReader.Covered.advance covered fits
  length := BitReader.length_advance fits
  forward := Nat.le_add_right _ count
  verbosity := rfl

theorem log (leads : state.Leads stop) (event : Log.Event) : state.Leads (stop.log event) :=
  ⟨leads.covered, leads.length, leads.forward, leads.verbosity⟩

end DecodeState.Leads

namespace Production

open Log

variable {α β : Type} {state : DecodeState}

/-- The state in which a run ended. -/
def ended : EStateM.Result DecodeError DecodeState α → DecodeState
  | .ok _ stop => stop
  | .error _ stop => stop

/-- What a run of at most `count` bits comes to: it leads on by no more, and a lack of bits is
refused with the place, the number of bits asked for and the number of bits left. -/
inductive Accounted (state : DecodeState) (count : Nat) :
    EStateM.Result DecodeError DecodeState α → Prop
  | granted {value : α} {stop : DecodeState} (leads : state.Leads stop)
      (within : stop.reader.position ≤ state.reader.position + count) :
      Accounted state count (.ok value stop)
  | refused {reason : DecodeError} {stop : DecodeState} (leads : state.Leads stop)
      (within : stop.reader.position ≤ state.reader.position + count)
      (lasting : reason.isTruncated = false) : Accounted state count (.error reason stop)
  | truncated {needed : Nat} {stop : DecodeState} (leads : state.Leads stop)
      (short : stop.reader.available < needed)
      (within : stop.reader.position + needed ≤ state.reader.position + count) :
      Accounted state count
        (.error (.truncated needed stop.reader.position stop.reader.available) stop)

/-- Every run of a production comes to that. -/
def Accounts (count : Nat) (production : Production α) : Prop :=
  ∀ ⦃state⦄, state.Covered → Accounted state count (production state)

namespace Accounted

variable {count limit : Nat}

theorem leads {result : EStateM.Result DecodeError DecodeState α}
    (accounted : Accounted state count result) : state.Leads (ended result) := by
  cases accounted with
  | granted leads => exact leads
  | refused leads => exact leads
  | truncated leads => exact leads

theorem position_le {value : α} {stop : DecodeState}
    (accounted : Accounted state count (.ok value stop)) :
    stop.reader.position ≤ state.reader.position + count := by
  cases accounted with
  | granted leads within => exact within

/-- A run that goes on from a state further on, with what is left of the bits. -/
theorem after {middle : DecodeState} {result : EStateM.Result DecodeError DecodeState α}
    (accounted : Accounted middle count result) (leads : state.Leads middle)
    (fits : middle.reader.position + count ≤ state.reader.position + limit) :
    Accounted state limit result := by
  cases accounted with
  | granted behind within => exact .granted (leads.trans behind) (Nat.le_trans within fits)
  | refused behind within lasting =>
      exact .refused (leads.trans behind) (Nat.le_trans within fits) lasting
  | truncated behind short within =>
      exact .truncated (leads.trans behind) short (Nat.le_trans within fits)

theorem weaken {result : EStateM.Result DecodeError DecodeState α}
    (accounted : Accounted state count result) (covered : state.Covered) (fits : count ≤ limit) :
    Accounted state limit result :=
  accounted.after (.refl covered) (Nat.add_le_add_left fits _)

/-- A refusal for a lack of bits tells the truth about them. -/
theorem of_truncated {needed position available : Nat} {stop : DecodeState}
    {result : EStateM.Result DecodeError DecodeState α} (accounted : Accounted state count result)
    (refused : result = .error (.truncated needed position available) stop) :
    position = stop.reader.position ∧ available < needed ∧
      position + available = state.reader.length ∧
      position + needed ≤ state.reader.position + count := by
  subst refused
  cases accounted with
  | refused leads within lasting => cases lasting
  | truncated leads short within => exact ⟨rfl, short, leads.length, within⟩

/-- A run does not run out of bits where as many are left as it may ask for. -/
theorem ne_truncated {result : EStateM.Result DecodeError DecodeState α}
    (accounted : Accounted state count result) (enough : count ≤ state.reader.available)
    {needed position available : Nat} {stop : DecodeState} :
    result ≠ .error (.truncated needed position available) stop := by
  intro refused
  obtain ⟨-, short, length, within⟩ := accounted.of_truncated refused
  rw [BitReader.length] at length
  omega

/-- The rest of a sequence is accounted for from where its first part ended. -/
theorem bind {first : Production α} {second : α → Production β}
    (start : Accounted state limit (first state))
    (behind : ∀ {value middle}, first state = .ok value middle → state.Leads middle →
      Accounted state limit (second value middle)) :
    Accounted state limit ((first >>= second) state) := by
  cases found : first state with
  | error reason middle =>
      rw [found] at start
      rw [bind_of_error found]
      cases start with
      | refused leads within lasting => exact .refused leads within lasting
      | truncated leads short within => exact .truncated leads short within
  | ok value middle =>
      rw [found] at start
      rw [bind_of_ok found]
      exact behind found start.leads

/-- Leaving the rest undecoded moves nothing. -/
theorem absorbing {production : Production Unit}
    (accounted : Accounted state count (production state)) :
    Accounted state count (absorbing production state) := by
  unfold Production.absorbing
  generalize production state = result at accounted
  cases accounted with
  | granted leads within => exact .granted leads within
  | truncated leads short within => exact .truncated leads short within
  | @refused reason stop leads within lasting =>
      cases reason with
      | truncated => cases lasting
      | reservedFrequencyIndex index => exact .refused leads within rfl
      | unsupported feature => exact .granted (leads.log _) within

end Accounted

/-! ## Streaming productions -/

theorem Accounts.seq {first : Production α} {second : α → Production β} {count more : Nat}
    (start : Accounts count first) (behind : ∀ value, Accounts more (second value)) :
    Accounts (count + more) (first >>= second) := by
  intro state covered
  have opened := start covered
  refine (opened.weaken covered (Nat.le_add_right count more)).bind ?_
  intro value middle found leads
  rw [found] at opened
  have reached := opened.position_le
  exact (behind value leads.covered).after leads (by omega)

/-- Every streaming production accounts for its bits. -/
theorem Streaming.accounts {count : Nat} {production : Production α}
    (streaming : Streaming count production) : Accounts count production := by
  -- one case a constructor: only a step that takes bits can run out of them
  induction streaming with
  | pure value => exact fun state covered => .granted (.refl covered) (Nat.le_refl _)
  | throw lasting => exact fun state covered => .refused (.refl covered) (Nat.le_refl _) lasting
  | record event =>
      exact fun state covered => .granted ⟨covered, rfl, Nat.le_refl _, rfl⟩ (Nat.le_refl _)
  | update change =>
      exact fun state covered => .granted ⟨covered, rfl, Nat.le_refl _, rfl⟩ (Nat.le_refl _)
  | config => exact fun state covered => .granted (.refl covered) (Nat.le_refl _)
  | @take α width value step takes =>
      intro state covered
      rw [takes covered]
      by_cases fits : width ≤ state.reader.available
      · rw [if_pos fits]
        exact .granted (.advance covered fits) (Nat.le_refl _)
      · rw [if_neg fits]
        exact .truncated (.refl covered) (Nat.not_le.mp fits) (Nat.le_refl _)
  | bind start rest startAccounts restAccounts => exact startAccounts.seq restAccounts
  | weaken streaming fits accounts =>
      exact fun state covered => (accounts covered).weaken covered fits

theorem Streaming.covered {count : Nat} {production : Production α} {value : α}
    {stop : DecodeState} (streaming : Streaming count production) (covered : state.Covered)
    (granted : production state = .ok value stop) : stop.Covered := by
  have leads := (streaming.accounts covered).leads
  rw [granted] at leads
  exact leads.covered

/-! ## Productions that ask for the number of bits left -/

/-- The number of bits that the fields of extensions take at most. -/
def fieldsWidth (code : ObjectType) : Nat :=
  if code = ObjectType.spectralBandReplication then 41
  else if code = ObjectType.resilientBitSliced then 33
  else 0

/-- Extensions with fields have the short code. -/
theorem length_bits_add_fieldsWidth_le (code : ObjectType) :
    code.bits.length + fieldsWidth code ≤ 46 := by
  unfold fieldsWidth
  by_cases sbr : code = ObjectType.spectralBandReplication
  · rw [if_pos sbr, sbr]
    decide
  · rw [if_neg sbr]
    by_cases sliced : code = ObjectType.resilientBitSliced
    · rw [if_pos sliced, sliced]
      decide
    · rw [if_neg sliced]
      exact Nat.le_trans code.length_bits_le (by decide)

namespace Accounts

theorem psExtension : Accounts 12 psExtension := by
  intro state covered
  rw [psExtension_eq]
  unfold guarded
  split
  · exact Streaming.psWord.accounts covered
  · exact .granted (.refl covered) (Nat.le_add_right _ _)

theorem replication : Accounts 41 replication := by
  have behind : ∀ used : Bool, Accounts 12 (if used then Production.psExtension else pure ()) := by
    intro used
    cases used with
    | false => exact ((Streaming.pure ()).weaken (by omega)).accounts
    | true => exact psExtension
  exact Streaming.sbrFlag.accounts.seq behind

theorem extensionFields (code : ObjectType) :
    Accounts (fieldsWidth code) (extensionFields code) := by
  unfold fieldsWidth Production.extensionFields
  split
  · exact replication
  · split
    · exact Streaming.bitSliced.accounts
    · exact (Streaming.pure ()).accounts

theorem recognisedExtension : Accounts 46 recognisedExtension := by
  intro state covered
  have opened := Streaming.objectType.accounts covered
  refine (opened.weaken covered (by omega)).bind ?_
  intro code middle found leads
  have behind : Accounts (0 + (fieldsWidth code + 0)) (do
      updateExtension fun extension => { extension with objectType := code }
      Production.extensionFields code
      let extension := (← config).extension
      record (.syncExtension code extension.sbrPresent extension.psPresent)) :=
    (Streaming.update _).accounts.seq fun _ => (extensionFields code).seq fun _ =>
      (Streaming.config.bind fun _ => .record _).accounts
  obtain ⟨-, -, rfl⟩ := objectType_eq_ok_iff.mp found
  -- the long code and the fields exclude each other, which keeps the sum within 46 bits
  have fits := length_bits_add_fieldsWidth_le code
  refine (behind leads.covered).after leads ?_
  show state.reader.position + code.bits.length + (0 + (fieldsWidth code + 0)) ≤ _
  omega

theorem extensionWord : Accounts (11 + 46) extensionWord := by
  refine (Streaming.number 11).accounts.seq fun word => ?_
  by_cases foreign : word ≠ sbrSyncWord
  · rw [if_pos foreign]
    exact ((Streaming.record _).weaken (by omega)).accounts
  · rw [if_neg foreign]
    exact recognisedExtension

theorem trailing : Accounts 57 trailing := by
  intro state covered
  rw [trailing_eq]
  split
  · exact extensionWord covered
  · exact .granted (.refl covered) (Nat.le_add_right _ _)

end Accounts

/-! ## A whole configuration -/

/-- A decoded core coder has at most eighteen bits of flags. -/
theorem accounted_coreFlags (covered : state.Covered)
    (core : Stream.IsCore state.config.objectType) : Accounted state 18 (coreFlags state) := by
  have opened := Streaming.leadingFlags.accounts covered
  rw [coreFlags]
  refine (opened.weaken covered (by omega)).bind ?_
  intro extended middle found leads
  rw [found] at opened
  have reached := opened.position_le
  obtain ⟨flags, -, -, -, rfl⟩ := leadingFlags_eq_ok_iff.mp found
  have payload : Accounts 1 (flag >>= fun set =>
      if set then throw (.unsupported .extensionFlagPayload) else pure ()) :=
    (Streaming.flag.bind fun _ => .ite (.throw rfl) (.pure _)).accounts
  -- a layout of its own is refused at once; otherwise one payload flag may follow
  rw [closingFlags_of_isCore (by exact core)]
  split
  · exact .refused leads (by omega) rfl
  · split
    · exact (payload leads.covered).after leads (by omega)
    · exact .granted leads (by omega)

theorem accounted_body (covered : state.Covered) (core : Stream.IsCore state.config.objectType) :
    Accounted state 75 (body state) := by
  have opened := accounted_coreFlags covered core
  rw [body]
  refine (opened.weaken covered (by omega)).bind ?_
  intro _ middle found leads
  rw [found] at opened
  have reached := opened.position_le
  exact (Accounts.trailing leads.covered).after leads (by omega)

/-- Extensions in front of the core coder leave only its flags to be read. -/
theorem accounted_body_of_announced (covered : state.Covered)
    (core : Stream.IsCore state.config.objectType) {channels : Nat}
    (layout : state.config.layout = .ofNumber channels)
    (announced : state.config.extension.objectType = ObjectType.spectralBandReplication) :
    Accounted state 18 (body state) := by
  have opened := accounted_coreFlags covered core
  rw [body]
  refine opened.bind ?_
  intro _ middle found leads
  rw [found] at opened
  have kept : middle.config.extension = state.config.extension := by
    obtain ⟨flags, close, -, -, -, rfl⟩ := (coreFlags_ends_iff core layout).mp (.granted found)
    rfl
  rw [trailing_of_announced (kept ▸ announced)]
  exact .granted leads opened.position_le

/-- No read of a whole configuration reaches beyond bit 112. -/
theorem Accounts.whole : Accounts 112 whole := by
  intro state covered
  have opened := Streaming.preamble.accounts covered
  rw [Production.whole]
  refine (opened.weaken covered (by omega)).bind ?_
  intro _ front found leads
  rw [found] at opened
  have reached := opened.position_le
  -- header and body are never longest together: extensions in front leave nothing behind the
  -- flags, and without them the header is short
  by_cases core : Stream.IsCore front.config.objectType
  · rw [coreCoder_of_isCore core]
    obtain ⟨header, -, -, extended⟩ := preamble_eq_ok_iff.mp found
    rcases frontExtension_eq_ok_iff.mp extended with
      ⟨-, rfl⟩ | ⟨announces, announcement, announced, -, rfl⟩
    · have width := Stream.Header.length_bits_le (show header.objectType < 31 from core.lt)
      refine (accounted_body leads.covered core).absorbing.after leads ?_
      show state.reader.position + header.bits.length + 75 ≤ state.reader.position + 112
      omega
    · have width := Stream.Header.length_bits_le (show header.objectType < 31 from announces.lt)
      have more := announced.length_bits_le core
      refine (accounted_body_of_announced leads.covered core rfl rfl).absorbing.after leads ?_
      show state.reader.position + header.bits.length + announcement.bits.length + 18 ≤
        state.reader.position + 112
      omega
  · rw [coreCoder_of_not_isCore core]
    exact .refused leads (by omega) rfl

end Production

end AacConfig
