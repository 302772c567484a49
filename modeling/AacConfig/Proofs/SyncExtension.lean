import AacConfig.Proofs.Settling
import AacConfig.Proofs.Walks

/-!
# Extensions behind a core coder

The production for extensions behind a core coder, started in any state and over
any record. It goes along `Stream.syncPlan`, and each part of the record on the
extensions is afterwards what the bits in front spell of it, or what it was
before (`Production.syncExtension_exact`).
-/

namespace AacConfig

namespace Stream

/-! ## What bits spell of extensions -/

/-- Extensions of the type have the flag of replication. -/
def HasSbrFlag (code : ObjectType) : Prop :=
  code = ObjectType.spectralBandReplication ∨ code = ObjectType.resilientBitSliced

/-- The object type of extensions is in front. -/
def SpellsType (bits : List Bool) (code : ObjectType) : Prop :=
  code.IsCodable ∧ syncBits code <+: bits

/-- The flag of replication is in front, behind a type that has it. -/
def SpellsSbr (bits : List Bool) (used : Bool) : Prop :=
  ∃ code, HasSbrFlag code ∧ syncBits code ++ [used] <+: bits

/-- The frequency of replication that is used is in front. -/
def SpellsFrequency (bits : List Bool) (frequency : SamplingFrequency) : Prop :=
  frequency.IsSignalled ∧
    ∃ code, HasSbrFlag code ∧ syncBits code ++ true :: frequency.bits <+: bits

/-- The flag of parametric stereo is in front, behind its word and the frequency of replication
that is used. -/
def SpellsPs (bits : List Bool) (used : Bool) : Prop :=
  ∃ frequency : SamplingFrequency, frequency.IsSignalled ∧
    syncBits ObjectType.spectralBandReplication ++
      (true :: frequency.bits ++ (Bits.ofNat 11 Production.psSyncWord ++ [used])) <+: bits

theorem HasSbrFlag.codable {code : ObjectType} (known : HasSbrFlag code) : code.IsCodable := by
  rcases known with rfl | rfl
  · exact .inl (by decide)
  · exact .inl (by decide)

end Stream

namespace Production

open AacConfig.Stream (HasSbrFlag Plan codePlan sbrPlan psPlan extensionPlan syncPlan syncBits)
open DecoderConfig (Field)

/-! ## The way through extensions -/

/-- Behind a set flag of replication stands a frequency. -/
theorem walks_sbrFlag (state : DecodeState) :
    Walks state.reader (sbrPlan state.remaining) (sbrFlag state) := by
  apply Walks.flag_bind
  apply Walks.updated
  cases state.remaining.headD false with
  | false => exact .still rfl
  | true =>
      have behind := Walks.frequency ((state.advance 1).extend fun extension =>
        { extension with sbrPresent := true })
      rw [DecodeState.remaining_extend, DecodeState.remaining_advance, List.drop_one] at behind
      exact .bind_still behind fun _ _ => ⟨_, _, rfl, rfl⟩

theorem walks_psExtension (state : DecodeState) :
    Walks state.reader (psPlan state.reader.available state.remaining) (psExtension state) := by
  rw [psExtension_eq, guarded, psPlan]
  by_cases few : state.reader.available < psExtensionWidth
  · rw [if_pos few, if_neg (Nat.not_le.mpr few)]
    exact .still rfl
  · rw [if_neg few, if_pos (Nat.not_lt.mp few)]
    have split : Plan.fields (if Bits.toNat (state.remaining.take 11) = psSyncWord then [11, 1]
        else [11]) =
        (Plan.fields [11]).before
          (.fields (if Bits.toNat (state.remaining.take 11) = psSyncWord then [1] else [])) := by
      split <;> rfl
    rw [split]
    apply Walks.readField_bind (Nat.le_refl 11)
    by_cases word : Bits.toNat (state.remaining.take 11) = psSyncWord
    · rw [if_pos word, if_pos word]
      exact .bind_still (.of_spans spans_flag _) fun _ _ => ⟨_, _, rfl, rfl⟩
    · rw [if_neg word, if_neg word]
      exact .still rfl

/-- The flag that `sbrFlag` gives is the first bit. -/
theorem headD_of_sbrFlag {state stop : DecodeState} {used : Bool}
    (granted : sbrFlag state = .ok used stop) : used = state.remaining.headD false := by
  rcases sbrFlag_eq_ok_iff.mp granted with ⟨rfl, ⟨rest, front⟩, -⟩ | ⟨rfl, _, -, ⟨rest, front⟩, -⟩
  · rw [← front]
    rfl
  · rw [← front]
    rfl

theorem walks_extensionFields (code : ObjectType) (state : DecodeState) :
    Walks state.reader (extensionPlan code state.reader.available state.remaining)
      (extensionFields code state) := by
  unfold extensionFields extensionPlan
  dsimp only
  by_cases sbr : code = ObjectType.spectralBandReplication
  · rw [if_pos sbr, if_pos sbr]
    refine .bind (walks_sbrFlag state) ?_
    intro used middle granted moved
    -- the plan of parametric stereo is made for what the flag of replication leaves
    have left : middle.remaining = state.remaining.drop (sbrPlan state.remaining).width := by
      rw [DecodeState.remaining, moved, BitReader.remaining_advance]
      rfl
    have behind := walks_psExtension middle
    rw [left, moved, BitReader.available_advance] at behind
    rw [headD_of_sbrFlag granted, moved]
    cases state.remaining.headD false with
    | false => exact .still moved
    | true => exact behind
  · rw [if_neg sbr, if_neg sbr]
    by_cases sliced : code = ObjectType.resilientBitSliced
    · rw [if_pos sliced, if_pos sliced]
      exact .bind (walks_sbrFlag state) fun _ middle _ _ =>
        .of_spans spans_skip middle
    · rw [if_neg sliced, if_neg sliced]
      exact .still rfl

/-- A code of an object type in front tells by its first five bits how long it is and, unless they
are the escape, the type. -/
theorem front_of_code {code : ObjectType} {bits : List Bool} (codable : code.IsCodable)
    (front : code.bits <+: bits) :
    (code = Bits.toNat (bits.take 5) ∧ code.bits.length = 5) ∨
      (32 ≤ code ∧ Bits.toNat (bits.take 5) = ObjectType.escape) := by
  rcases codable with low | ⟨high, -⟩
  · rw [ObjectType.bits_of_lt low] at front ⊢
    have fits : code < 2 ^ 5 := Nat.lt_trans low (by decide)
    exact .inl ⟨(Bits.ofNat_prefix_iff.mp ⟨fits, front⟩).2, Bits.length_ofNat 5 code⟩
  · rw [ObjectType.bits_of_ge high, Bits.append_prefix_iff] at front
    exact .inr ⟨high, (Bits.ofNat_prefix_iff.mp ⟨by decide, front.1⟩).2.symm⟩

/-- Extensions behind their word: an object type, and the fields that it has. -/
theorem walks_recognisedExtension (state : DecodeState) :
    Walks state.reader
      ((codePlan state.remaining).before
        (extensionPlan (Bits.toNat (state.remaining.take 5)) (state.reader.available - 5)
          (state.remaining.drop 5)))
      (recognisedExtension state) := by
  refine .bind (Walks.objectType state) ?_
  intro code middle granted _
  obtain ⟨codable, front, rfl⟩ := objectType_eq_ok_iff.mp granted
  apply Walks.updated
  refine .bind_still ?_ fun _ _ => ⟨_, _, rfl, rfl⟩
  have way := walks_extensionFields code
    (((state.advance code.bits.length).log (.objectType code)).extend
      fun extension => { extension with objectType := code })
  -- the plan looks at five bits for the type, which is enough: only short codes have fields
  rcases front_of_code codable front with ⟨same, five⟩ | ⟨high, escaped⟩
  · rw [DecodeState.remaining_extend, DecodeState.remaining_log, DecodeState.remaining_advance,
      five] at way
    rw [← same, five]
    exact way
  · -- no type with a long code has fields, and the escape is none
    have plain : extensionFields code = pure () := by
      have notSbr : code ≠ ObjectType.spectralBandReplication := by
        rintro rfl
        exact absurd high (by decide)
      have notSliced : code ≠ ObjectType.resilientBitSliced := by
        rintro rfl
        exact absurd high (by decide)
      rw [extensionFields, if_neg notSbr, if_neg notSliced]
    rw [escaped, plain]
    exact .still rfl

theorem walks_extensionWord (state : DecodeState) :
    Walks state.reader (syncPlan state.reader.available state.remaining)
      (extensionWord state) := by
  apply Walks.readField_bind (Nat.le_refl 11)
  have behind := walks_recognisedExtension (state.advance 11)
  rw [DecodeState.remaining_advance, List.drop_drop] at behind
  by_cases word : Bits.toNat (state.remaining.take 11) = sbrSyncWord
  · rw [if_pos word, if_neg fun foreign => foreign word]
    exact behind
  · rw [if_neg word, if_pos word]
    exact .still rfl

/-! ## What extensions leave in the record -/

section Fields

variable {γ : Type} {view : DecoderConfig → γ}

theorem exists_behind_iff {front back bits : List Bool} :
    (∃ rest, bits = front ++ rest ∧ back <+: rest) ↔ front ++ back <+: bits := by
  constructor
  · rintro ⟨_, rfl, rest, rfl⟩
    exact ⟨rest, List.append_assoc front back rest⟩
  · rintro ⟨rest, rfl⟩
    exact ⟨back ++ rest, List.append_assoc front back rest, rest, rfl⟩

/-- The flag of replication settles whether it is used. -/
theorem settles_sbrPresent :
    Settles (fun config => config.extension.sbrPresent) (fun bits content => [content] <+: bits)
      sbrFlag :=
  .flag fun sbrPresent => .before (.update sbrPresent fun _ => rfl) fun _ =>
    .ite (.bind (.of_fills .frequency) fun _ => .bind (.update fun _ => rfl) fun _ =>
      .of_fills (.pure _)) (.of_fills (.pure _))

/-- A set flag of replication settles the frequency behind it. -/
theorem settles_extensionFrequency :
    Settles (fun config => config.extension.frequency)
      (fun bits content => content.IsSignalled ∧ true :: content.bits <+: bits) sbrFlag := by
  -- the rules give what is spelled step by step; the rest shows that this is one code in front
  refine .congr (.behind reads_flag (.of_fills .flag) fun sbrPresent =>
    .updated (fun _ => rfl)
      (.ite (.behind reads_frequency (.of_fills .frequency) fun doubled =>
        .before (.update doubled fun _ => rfl) fun _ => .of_fills (.pure _))
        (.of_spares (.of_fills (.pure _))))) ?_
  intro bits content
  constructor
  · rintro ⟨used, _, _, rfl, rfl, spelled⟩
    cases used with
    | false => exact spelled.elim
    | true =>
        obtain ⟨_, _, rest, ⟨signalled, rfl⟩, rfl, rfl⟩ := spelled
        exact ⟨signalled, rest, rfl⟩
  · rintro ⟨signalled, rest, rfl⟩
    exact ⟨true, _, _, rfl, rfl, content, _, rest, ⟨signalled, rfl⟩, rfl, rfl⟩

/-- The flag behind the word of parametric stereo settles whether it is used. -/
theorem settles_psPresent :
    Settles (fun config => config.extension.psPresent)
      (fun bits content => Bits.ofNat 11 psSyncWord ++ [content] <+: bits) psExtension := by
  have word : Settles (fun config => config.extension.psPresent)
      (fun bits content => Bits.ofNat 11 psSyncWord ++ [content] <+: bits) psWord := by
    refine .congr (.behind reads_number (.of_fills (.number 11)) fun word =>
      .ite (.flag fun psPresent => .update psPresent fun _ => rfl)
        (.of_spares (.of_fills (.pure _)))) ?_
    intro bits content
    rw [← exists_behind_iff]
    constructor
    · rintro ⟨word, _, rest, ⟨-, rfl⟩, rfl, spelled⟩
      by_cases known : word = psSyncWord
      · rw [if_pos known] at spelled
        exact ⟨rest, by rw [known], spelled⟩
      · rw [if_neg known] at spelled
        exact spelled.elim
    · rintro ⟨rest, rfl, spelled⟩
      refine ⟨psSyncWord, _, rest, ⟨by decide, rfl⟩, rfl, ?_⟩
      rw [if_pos rfl]
      exact spelled
  rw [psExtension_eq]
  refine .guarded word ?_
  intro bits content spelled
  have enough := spelled.length_le
  rwa [List.length_append, Bits.length_ofNat] at enough

/-- The flag of replication is read alone, or with the frequency that it announces. -/
theorem reads_sbrFlag :
    Reads (fun used front => (used = false ∧ front = [false]) ∨
      (used = true ∧ ∃ doubled : SamplingFrequency, doubled.IsSignalled ∧
        front = true :: doubled.bits)) sbrFlag := by
  intro state used rest
  constructor
  · rintro ⟨stop, granted, rfl⟩
    rcases sbrFlag_eq_ok_iff.mp granted with
      ⟨rfl, front, rfl⟩ | ⟨rfl, doubled, signalled, front, rfl⟩
    · exact ⟨_, .inl ⟨rfl, rfl⟩, DecodeState.remaining_eq_append front⟩
    · exact ⟨_, .inr ⟨rfl, doubled, signalled, rfl⟩, DecodeState.remaining_eq_append front⟩
  · rintro ⟨_, ⟨rfl, rfl⟩ | ⟨rfl, doubled, signalled, rfl⟩, split⟩
    · exact ⟨_, sbrFlag_eq_ok_iff.mpr (.inl ⟨rfl, ⟨rest, split.symm⟩, rfl⟩),
        DecodeState.remaining_advance_of_eq_append split⟩
    · exact ⟨_, sbrFlag_eq_ok_iff.mpr (.inr ⟨rfl, doubled, signalled, ⟨rest, split.symm⟩, rfl⟩),
        DecodeState.remaining_advance_of_eq_append split⟩

/-- What the flag of replication settles is settled by extensions of the two types that have it. -/
theorem settles_extensionFields {spelled : List Bool → γ → Prop}
    (flagged : Settles view spelled sbrFlag) (apart : Spares view psExtension)
    (code : ObjectType) :
    Settles view (fun bits content => HasSbrFlag code ∧ spelled bits content)
      (extensionFields code) := by
  have replicated : Settles view spelled replication :=
    .before flagged fun _ => .ite apart (.of_fills (.pure _))
  have sliced : Settles view spelled bitSliced := .before flagged fun _ => .of_fills (.skip 4)
  refine .congr (.ite replicated (.ite sliced (.of_spares (.of_fills (.pure _))))) ?_
  intro bits content
  by_cases sbr : code = ObjectType.spectralBandReplication
  · rw [if_pos sbr, and_iff_right (.inl sbr)]
  · rw [if_neg sbr]
    by_cases named : code = ObjectType.resilientBitSliced
    · rw [if_pos named, and_iff_right (.inr named)]
    · rw [if_neg named]
      exact ⟨False.elim, fun both => both.1.elim sbr named⟩

/-- Parametric stereo belongs to replication that is used. -/
theorem settles_extensionFields_psPresent (code : ObjectType) :
    Settles (fun config => config.extension.psPresent)
      (fun bits content => code = ObjectType.spectralBandReplication ∧
        ∃ doubled : SamplingFrequency, doubled.IsSignalled ∧
          true :: doubled.bits ++ (Bits.ofNat 11 psSyncWord ++ [content]) <+: bits)
      (extensionFields code) := by
  have apart : Spares (fun config => config.extension.psPresent) sbrFlag := fun state =>
    (Fills.sbrFlag.touches state).others .psPresent (by decide)
  refine .congr (.ite (.behind reads_sbrFlag apart fun used =>
      .ite settles_psPresent (.of_spares (.of_fills (.pure _))))
    (.ite (.before (.of_spares apart) fun _ => .of_fills (.skip 4))
      (.of_spares (.of_fills (.pure _))))) ?_
  intro bits content
  by_cases sbr : code = ObjectType.spectralBandReplication
  · rw [if_pos sbr, and_iff_right sbr]
    constructor
    -- without replication the word is not looked for, so nothing is spelled
    · rintro ⟨_, _, rest, ⟨rfl, rfl⟩ | ⟨rfl, doubled, signalled, rfl⟩, rfl, spelled⟩
      · exact spelled.elim
      · exact ⟨doubled, signalled, exists_behind_iff.mp ⟨rest, rfl, spelled⟩⟩
    · rintro ⟨doubled, signalled, front⟩
      obtain ⟨rest, rfl, spelled⟩ := exists_behind_iff.mpr front
      exact ⟨true, _, rest, .inr ⟨rfl, doubled, signalled, rfl⟩, rfl, spelled⟩
  · rw [if_neg sbr]
    split
    · exact ⟨False.elim, fun both => sbr both.1⟩
    · exact ⟨False.elim, fun both => sbr both.1⟩

/-- What extensions of a given type settle is settled behind their word and that type. -/
theorem settles_extensionWord {spelled : ObjectType → List Bool → γ → Prop}
    (coded : ∀ code, Settles view (spelled code) (codedExtension code)) :
    Settles view
      (fun bits content => ∃ (code : ObjectType) (rest : List Bool), code.IsCodable ∧
        bits = syncBits code ++ rest ∧ spelled code rest content)
      extensionWord := by
  have recognised : Settles view _ recognisedExtension :=
    .behind reads_objectType (.of_fills .objectType) coded
  refine .congr (.behind reads_number (.of_fills (.number 11)) fun word =>
    .ite (.of_spares (.of_fills (.record rfl))) recognised) ?_
  intro bits content
  constructor
  · rintro ⟨word, _, _, ⟨-, rfl⟩, rfl, behind⟩
    by_cases foreign : word ≠ sbrSyncWord
    · rw [if_pos foreign] at behind
      exact behind.elim
    · rw [if_neg foreign] at behind
      obtain ⟨code, _, rest, ⟨codable, rfl⟩, rfl, spells⟩ := behind
      obtain rfl := Decidable.not_not.mp foreign
      exact ⟨code, rest, codable, (List.append_assoc _ _ _).symm, spells⟩
  · rintro ⟨code, rest, codable, rfl, spells⟩
    refine ⟨sbrSyncWord, _, code.bits ++ rest, ⟨by decide, rfl⟩, List.append_assoc _ _ _, ?_⟩
    rw [if_neg fun foreign => foreign rfl]
    exact ⟨code, _, rest, ⟨codable, rfl⟩, rfl, spells⟩

end Fields

theorem syncExtension_of_lt {state : DecodeState}
    (few : state.reader.available < syncExtensionWidth) :
    syncExtension state = .error
      (.truncated syncExtensionWidth state.reader.position state.reader.available) state := by
  rw [syncExtension, get_bind]
  simp only [if_pos few]
  rfl

theorem supported_syncExtension : Supported syncExtension := by
  intro state reason stop refused
  by_cases few : state.reader.available < syncExtensionWidth
  · rw [syncExtension_of_lt few] at refused
    cases refused
    exact .inl rfl
  · rw [syncExtension_of_le (Nat.not_lt.mp few)] at refused
    exact supported_extensionWord state reason stop refused

/-- Where too few bits are left for extensions to be looked at, none are spelled. -/
theorem settles_syncExtension {γ : Type} {view : DecoderConfig → γ}
    {spelled : ObjectType → List Bool → γ → Prop}
    (coded : ∀ code, Settles view (spelled code) (codedExtension code)) :
    Settles view
      (fun bits content => ∃ (code : ObjectType) (rest : List Bool), code.IsCodable ∧
        bits = syncBits code ++ rest ∧ spelled code rest content)
      syncExtension := by
  intro state
  by_cases few : state.reader.available < syncExtensionWidth
  · rw [syncExtension_of_lt few]
    refine ⟨?_, fun _ => rfl⟩
    rintro content ⟨code, rest, -, split, -⟩
    have left : state.remaining.length ≤ state.reader.available :=
      state.reader.length_remaining_le
    -- the word and the shortest code of a type are sixteen bits, all that is asked for
    have five := code.five_le_length_bits
    rw [split, syncBits, List.length_append, List.length_append, Bits.length_ofNat] at left
    rw [syncExtensionWidth] at few
    omega
  · rw [syncExtension_of_le (Nat.not_lt.mp few)]
    exact settles_extensionWord coded state

theorem fills_syncEvent (code : ObjectType) :
    Fills [] (config >>= fun current =>
      record (.syncExtension code current.extension.sbrPresent current.extension.psPresent)) :=
  .reads .config .config fun _ => .record rfl

/-- What the fields of extensions settle apart from their type. -/
theorem settles_codedExtension {γ : Type} {view : DecoderConfig → γ}
    {spelled : List Bool → γ → Prop} {code : ObjectType}
    (apart : ∀ config : DecoderConfig,
      view { config with extension.objectType := code } = view config)
    (fields : Settles view spelled (extensionFields code)) :
    Settles view spelled (codedExtension code) :=
  .updated apart (.before fields fun _ => .of_fills (fills_syncEvent code))

theorem settles_extensionObjectType :
    Settles (fun config => config.extension.objectType) Stream.SpellsType syncExtension := by
  have apart : ∀ code, Spares (fun config => config.extension.objectType)
      (extensionFields code) := fun code state =>
    ((Fills.extensionFields code).touches state).others .extensionObjectType (by decide)
  refine .congr (settles_syncExtension fun code => .before (.update code fun _ => rfl) fun _ =>
    .bind (apart code) fun _ => .of_fills (fills_syncEvent code)) ?_
  intro bits content
  constructor
  · rintro ⟨code, rest, codable, rfl, rfl⟩
    exact ⟨codable, rest, rfl⟩
  · rintro ⟨codable, rest, rfl⟩
    exact ⟨content, rest, codable, rfl, rfl⟩

/-- What stands behind a type that has the flag of replication. -/
theorem exists_sbrFlag_iff {back bits : List Bool} :
    (∃ (code : ObjectType) (rest : List Bool), code.IsCodable ∧ bits = syncBits code ++ rest ∧
      HasSbrFlag code ∧ back <+: rest) ↔
      ∃ code, HasSbrFlag code ∧ syncBits code ++ back <+: bits := by
  constructor
  · rintro ⟨code, rest, -, split, known, front⟩
    exact ⟨code, known, exists_behind_iff.mp ⟨rest, split, front⟩⟩
  · rintro ⟨code, known, front⟩
    obtain ⟨rest, split, behind⟩ := exists_behind_iff.mpr front
    exact ⟨code, rest, known.codable, split, known, behind⟩

theorem settles_syncExtension_sbrPresent :
    Settles (fun config => config.extension.sbrPresent) Stream.SpellsSbr syncExtension := by
  have apart : Spares (fun config => config.extension.sbrPresent) psExtension := fun state =>
    (Fills.psExtension.touches state).others .sbrPresent (by decide)
  refine .congr (settles_syncExtension fun code => settles_codedExtension (fun _ => rfl)
    (settles_extensionFields settles_sbrPresent apart code)) ?_
  intro bits content
  exact exists_sbrFlag_iff

theorem settles_syncExtension_frequency :
    Settles (fun config => config.extension.frequency) Stream.SpellsFrequency syncExtension := by
  have apart : Spares (fun config => config.extension.frequency) psExtension := by
    intro state
    have others := (Fills.psExtension.touches state).others
    have index := others .extensionFrequencyIndex (by decide)
    have hertz := others .extensionFrequencyHertz (by decide)
    exact congrArg₂ SamplingFrequency.mk index hertz
  refine .congr (settles_syncExtension fun code => settles_codedExtension (fun _ => rfl)
    (settles_extensionFields settles_extensionFrequency apart code)) ?_
  intro bits content
  rw [Stream.SpellsFrequency, ← exists_sbrFlag_iff]
  constructor
  · rintro ⟨code, rest, codable, split, named, signalled, front⟩
    exact ⟨signalled, code, rest, codable, split, named, front⟩
  · rintro ⟨signalled, code, rest, codable, split, named, front⟩
    exact ⟨code, rest, codable, split, named, signalled, front⟩

theorem settles_syncExtension_psPresent :
    Settles (fun config => config.extension.psPresent) Stream.SpellsPs syncExtension := by
  refine .congr (settles_syncExtension fun code => settles_codedExtension (fun _ => rfl)
    (settles_extensionFields_psPresent code)) ?_
  intro bits content
  constructor
  · rintro ⟨_, rest, -, split, rfl, frequency, signalled, front⟩
    exact ⟨frequency, signalled, exists_behind_iff.mp ⟨rest, split, front⟩⟩
  · rintro ⟨frequency, signalled, front⟩
    obtain ⟨rest, split, behind⟩ := exists_behind_iff.mpr front
    exact ⟨_, rest, HasSbrFlag.codable (.inl rfl), split, rfl, frequency, signalled, behind⟩

/-- A word that starts no extensions is passed over, and nothing else happens. -/
theorem syncExtension_of_foreign {state : DecodeState}
    (many : syncExtensionWidth ≤ state.reader.available) (enough : 11 ≤ state.remaining.length)
    (foreign : Bits.toNat (state.remaining.take 11) ≠ sbrSyncWord) :
    ∃ stop, syncExtension state = .ok () stop ∧ stop.config = state.config ∧
      stop.reader = state.reader.advance 11 := by
  obtain ⟨fits, front⟩ := Bits.ofNat_prefix_iff.mpr ⟨enough, rfl⟩
  have word := number_eq_ok_iff.mpr ⟨fits, front, rfl⟩
  refine ⟨(state.advance 11).log
    (.foreignSyncWord (Bits.toNat (state.remaining.take 11))), ?_, rfl, rfl⟩
  rw [syncExtension_of_le many, extensionWord, bind_of_ok word, if_pos foreign, record_eq]

/-- **Extensions behind a core coder, in any state.** No feature is ever refused as one that is
not decoded, and no field that is none of the extensions changes. With fewer than sixteen bits left
the run is refused before it reads; a word that starts no extensions is passed over. Otherwise the
run goes along the plan of the extensions. Whatever its outcome, their object type, the flag of
replication, its frequency and the flag of parametric stereo are each what the bits spell, or what
they were before where the bits do not spell them as a whole. -/
theorem syncExtension_exact (state : DecodeState) :
    (∀ feature stop, syncExtension state ≠ .error (.unsupported feature) stop) ∧
    (∀ field, field ∉ Field.ofExtension →
      (ended (syncExtension state)).config.get field = state.config.get field) ∧
    (state.reader.available < 16 → syncExtension state =
      .error (.truncated 16 state.reader.position state.reader.available) state) ∧
    (16 ≤ state.reader.available → 11 ≤ state.remaining.length →
      Bits.toNat (state.remaining.take 11) ≠ 0x2B7 →
      ∃ stop, syncExtension state = .ok () stop ∧ stop.config = state.config ∧
        stop.reader = state.reader.advance 11) ∧
    (16 ≤ state.reader.available →
      Walks state.reader (syncPlan state.reader.available state.remaining)
        (syncExtension state)) ∧
    Settled (Stream.SpellsType state.remaining) state.config.extension.objectType
      (ended (syncExtension state)).config.extension.objectType ∧
    Settled (Stream.SpellsSbr state.remaining) state.config.extension.sbrPresent
      (ended (syncExtension state)).config.extension.sbrPresent ∧
    Settled (Stream.SpellsFrequency state.remaining) state.config.extension.frequency
      (ended (syncExtension state)).config.extension.frequency ∧
    Settled (Stream.SpellsPs state.remaining) state.config.extension.psPresent
      (ended (syncExtension state)).config.extension.psPresent := by
  refine ⟨fun _ _ => supported_syncExtension.ne_unsupported, ?_, syncExtension_of_lt,
    syncExtension_of_foreign, ?_, settles_extensionObjectType state,
    settles_syncExtension_sbrPresent state, settles_syncExtension_frequency state,
    settles_syncExtension_psPresent state⟩
  · intro field outside
    by_cases few : state.reader.available < syncExtensionWidth
    · rw [syncExtension_of_lt few]
      rfl
    · rw [syncExtension_of_le (Nat.not_lt.mp few)]
      exact (Fills.extensionWord.touches state).others field outside
  · intro many
    rw [syncExtension_of_le many]
    exact walks_extensionWord state

-- replication at a frequency that is written out, and parametric stereo behind it
example :
    syncPlan 57 (syncBits ObjectType.spectralBandReplication ++
      true :: SamplingFrequency.bits ⟨15, 50000⟩ ++ Bits.ofNat 11 psSyncWord ++ [true]) =
    .fields [11, 5, 1, 4, 24, 11, 1] := by
  decide

end Production

end AacConfig
