import AacConfig.Proofs.Accounts
import AacConfig.Proofs.Growth

/-!
# Truncated inputs

A refusal for a lack of bits says where the reader stands, how many bits it
asked for and how many are left, and who puts as many behind the byte string
as are missing gets beyond the read that was refused
(`DecoderConfig.decode_truncated`).

The two runs, with and without the bits behind, stand at the same place as
long as the first one reads, so `DecodeState.GrowsInPlace` adds the place to
what is known of them. A run is refused for a lack of bits only by a read, and
no branch in front of a read depends on bits that are not there: whoever looks
for extensions has found enough of them to start reading.
-/

namespace AacConfig

/-- The second state is the first one with more bits behind, and stands at the same place. -/
structure DecodeState.GrowsInPlace (state grown : DecodeState) : Prop
    extends state.Grows grown where
  position : grown.reader.position = state.reader.position

theorem DecodeState.GrowsInPlace.start (prior : DecoderConfig) (data more : List UInt8) :
    (DecodeState.start prior data).GrowsInPlace (.start prior (data ++ more)) :=
  ⟨.start prior data more, rfl⟩

namespace Production

variable {α β : Type}

/-- What a streaming production grants moves both readers to the same place. -/
theorem Streaming.granted_in_place {count : Nat} {production : Production α}
    (streaming : Streaming count production) {state grown stop : DecodeState} {value : α}
    (grows : state.GrowsInPlace grown) (granted : production state = .ok value stop) :
    ∃ reached, production grown = .ok value reached ∧ stop.GrowsInPlace reached := by
  obtain ⟨width, reached, same, behind, moved, grownMoved⟩ :=
    streaming.granted grows.toGrows granted
  refine ⟨reached, same, behind, ?_⟩
  rw [grownMoved, moved, BitReader.position_advance, BitReader.position_advance, grows.position]

/-! ## Runs that go on -/

/-- No run moves back. -/
def MovesForward (production : Production α) : Prop :=
  ∀ ⦃state : DecodeState⦄, state.Covered → state.Leads (ended (production state))

theorem Accounts.movesForward {count : Nat} {production : Production α}
    (accounts : Accounts count production) : MovesForward production :=
  fun _ covered => (accounts covered).leads

/-- A sequence ends no further back than its first part. -/
theorem MovesForward.leads_bind {first : Production α} {second : α → Production β}
    (start : MovesForward first) (rest : ∀ value, MovesForward (second value))
    {state : DecodeState} (covered : state.Covered) :
    (ended (first state)).Leads (ended ((first >>= second) state)) := by
  have opened := start covered
  cases found : first state with
  | error reason middle =>
      rw [found] at opened
      rw [bind_of_error found]
      exact .refl opened.covered
  | ok value middle =>
      rw [found] at opened
      rw [bind_of_ok found]
      exact rest value opened.covered

/-- A run moves forward, and with the bits that it asked for in vain it gets beyond them. -/
structure Resumes (production : Production α) : Prop where
  forward : MovesForward production
  beyond : ∀ ⦃state grown stop : DecodeState⦄ ⦃needed position available : Nat⦄,
    state.GrowsInPlace grown →
    production state = .error (.truncated needed position available) stop →
    position + needed ≤ grown.reader.length →
    position + needed ≤ (ended (production grown)).reader.position

namespace Resumes

/-- A production that asks for no bits does not run out of them. -/
theorem of_streaming_zero {production : Production α} (streaming : Streaming 0 production) :
    Resumes production where
  forward := streaming.accounts.movesForward
  beyond := by
    intro state grown stop needed position available grows refused
    have accounted := streaming.accounts grows.covered
    exact absurd refused (accounted.ne_truncated (Nat.zero_le _))

/-- Where the first part was refused, it goes on, and the rest moves no further back. -/
theorem bind_of_forward {first : Production α} {second : α → Production β} (start : Resumes first)
    (forward : ∀ value, MovesForward (second value))
    (behind : ∀ ⦃state grown middle stop : DecodeState⦄ ⦃value : α⦄
      ⦃needed position available : Nat⦄, state.GrowsInPlace grown →
      first state = .ok value middle →
      second value middle = .error (.truncated needed position available) stop →
      position + needed ≤ grown.reader.length →
      position + needed ≤ (ended ((first >>= second) grown)).reader.position) :
    Resumes (first >>= second) where
  forward := fun _ covered =>
    (start.forward covered).trans (start.forward.leads_bind forward covered)
  beyond := by
    intro state grown stop needed position available grows refused fits
    cases found : first state with
    | error reason middle =>
        rw [bind_of_error found] at refused
        cases refused
        -- the longer run gets beyond the place within its first part, and never moves back
        have further := start.forward.leads_bind forward grows.grownCovered
        exact Nat.le_trans (start.beyond grows found fits) further.forward
    | ok value middle =>
        rw [bind_of_ok found] at refused
        exact behind grows found refused fits

/-- Where the first part was granted, the rest goes on from where the longer run has come to. -/
theorem bind {first : Production α} {second : α → Production β} {count : Nat}
    (streaming : Streaming count first) (start : Resumes first)
    (rest : ∀ value, Resumes (second value)) : Resumes (first >>= second) := by
  refine bind_of_forward start (fun value => (rest value).forward) ?_
  intro state grown middle stop value needed position available grows found refused fits
  obtain ⟨reached, same, behind⟩ := streaming.granted_in_place grows found
  have opened := start.forward grows.grownCovered
  rw [same] at opened
  rw [bind_of_ok same]
  refine (rest value).beyond behind refused ?_
  rw [show reached.reader.length = grown.reader.length from opened.length]
  exact fits

/-- A rest that reads nothing does not matter, whatever is in front of it. -/
theorem bind_streaming_zero {first : Production α} {second : α → Production β}
    (start : Resumes first) (rest : ∀ value, Streaming 0 (second value)) :
    Resumes (first >>= second) := by
  refine bind_of_forward start (fun value => (rest value).accounts.movesForward) ?_
  intro state grown middle stop value needed position available grows found refused _
  have opened := start.forward grows.covered
  rw [found] at opened
  have accounted := (rest value).accounts opened.covered
  exact absurd refused (accounted.ne_truncated (Nat.zero_le _))

end Resumes

/-- Every streaming production goes on with the bits that it asked for. -/
theorem Streaming.resumes {count : Nat} {production : Production α}
    (streaming : Streaming count production) : Resumes production := by
  induction streaming with
  | pure value => exact .of_streaming_zero (.pure value)
  | throw lasting => exact .of_streaming_zero (.throw lasting)
  | record event => exact .of_streaming_zero (.record event)
  | update change => exact .of_streaming_zero (.update change)
  | config => exact .of_streaming_zero .config
  | @take α width value step takes =>
      refine ⟨(Streaming.take takes).accounts.movesForward, ?_⟩
      intro state grown stop needed position available grows refused fits
      rw [takes grows.covered] at refused
      split at refused
      · cases refused
      · cases refused
        -- the read that was refused is granted now, and ends where it asked to end
        have enough : width ≤ grown.reader.available := by
          simp only [BitReader.length, grows.position] at fits
          omega
        rw [takes grows.grownCovered, if_pos enough, ← grows.position]
        exact Nat.le_refl _
  | bind start rest startResumes restResumes => exact .bind start startResumes restResumes
  | weaken streaming fits resumes => exact resumes

/-! ## Guards -/

/-- Where a feature is left undecoded a run ends as where it met the feature, with an event. -/
theorem ended_absorbing (production : Production Unit) (state : DecodeState) :
    ended (absorbing production state) = ended (production state) ∨
      ∃ event, ended (absorbing production state) = (ended (production state)).log event := by
  unfold absorbing
  split
  · rename_i feature reached found
    rw [found]
    exact .inr ⟨_, rfl⟩
  · exact .inl rfl

theorem Resumes.absorbing {production : Production Unit} (resumes : Resumes production) :
    Resumes (absorbing production) where
  forward := by
    intro state covered
    have leads := resumes.forward covered
    rcases ended_absorbing production state with same | ⟨event, same⟩
    · rw [same]
      exact leads
    · rw [same]
      exact leads.log event
  beyond := by
    intro state grown stop needed position available grows refused fits
    simp only [Production.absorbing] at refused
    split at refused
    · cases refused
    · have further := resumes.beyond grows refused fits
      rcases ended_absorbing production grown with same | ⟨event, same⟩
      · rw [same]
        exact further
      · rw [same]
        exact further

theorem Resumes.guarded {inner : Production Unit} (resumes : Resumes inner) (width : Nat) :
    Resumes (guarded width inner) where
  forward := by
    intro state covered
    unfold Production.guarded
    split
    · exact resumes.forward covered
    · exact .refl covered
  beyond := by
    intro state grown stop needed position available grows refused fits
    simp only [Production.guarded] at refused ⊢
    split at refused
    · rename_i many
      rw [if_pos (Nat.le_trans many grows.available_le)]
      exact resumes.beyond grows refused fits
    · cases refused

theorem Guarded.resumes {production : Production Unit} (guarded : Guarded production) :
    Resumes production := by
  induction guarded with
  | streaming streaming => exact streaming.resumes
  | behind start rest resumes => exact .bind start start.resumes resumes
  | before start rest granted resumes => exact resumes.bind_streaming_zero rest
  | guard width inside resumes => exact resumes.guarded width
  | absorbing inside resumes => exact resumes.absorbing

end Production

namespace DecoderConfig

/-- A byte string that is too short is refused with the place of a read, the number of bits that
it asked for and the number of bits up to the end, which is smaller. With the missing bits behind
it the byte string is not too short, or only for a read behind that one. -/
theorem decode_truncated {data : List UInt8} {needed position available : Nat}
    (truncated : decode data = .error (.truncated needed position available)) :
    available < needed ∧ position + available = 8 * data.length ∧
      ∀ more : List UInt8, needed - available ≤ 8 * more.length →
        ∀ furtherNeeded further left,
          decode (data ++ more) = .error (.truncated furtherNeeded further left) →
          position + needed ≤ further := by
  obtain ⟨stop, refused⟩ := decode_eq_error_iff.mp truncated
  have accounted := Production.Accounts.whole (DecodeState.covered_start {} data)
  obtain ⟨-, short, length, -⟩ := accounted.of_truncated refused
  have total : position + available = 8 * data.length :=
    length.trans (BitReader.length_ofBytes data)
  refine ⟨short, total, ?_⟩
  intro more enough furtherNeeded further left again
  obtain ⟨reached, grownRefused⟩ := decode_eq_error_iff.mp again
  have fits : position + needed ≤ (DecodeState.start {} (data ++ more)).reader.length := by
    show position + needed ≤ 0 + 8 * (data ++ more).length
    rw [List.length_append]
    omega
  have beyond := Production.Guarded.whole.resumes.beyond (.start {} data more) refused fits
  -- the second refusal says where the longer run has come to
  have grownAccounted := Production.Accounts.whole (DecodeState.covered_start {} (data ++ more))
  obtain ⟨rfl, -⟩ := grownAccounted.of_truncated grownRefused
  rw [grownRefused] at beyond
  exact beyond

/-- Extensions that end in front of their flag, and then in front of a written frequency. -/
theorem decode_truncated_replicated :
    decode [0x13, 0x90, 0x56, 0xE5] = .error (.truncated 1 32 0) ∧
    decode ([0x13, 0x90, 0x56, 0xE5] ++ [0xF8]) = .error (.truncated 24 37 3) ∧ 32 + 1 ≤ 37 :=
  ⟨rfl, rfl, (@decode_truncated [0x13, 0x90, 0x56, 0xE5] 1 32 0 rfl).2.2 [0xF8] (by decide) 24 37 3
    rfl⟩

end DecoderConfig

end AacConfig
