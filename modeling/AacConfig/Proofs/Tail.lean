import AacConfig.Proofs.Productions

/-!
# The tail

What stands behind the flags of the core coder. The productions for extensions
there leave a record behind exactly where a tail that spells it stands in
front: `Production.tail_of_extensionWord` and
`Production.extensionWord_leaves_of_tail`.

Parametric stereo is looked for by the number of bits left, and a word that
turns out to be another one is passed over. What is left behind it therefore
is no part of the statements; only the record is.
-/

namespace AacConfig

/-- Bits that start with parametric stereo are its word, its flag and a rest. -/
theorem Stream.startsPs_iff {bits : List Bool} :
    Stream.StartsPs bits ↔
      ∃ psPresent rest, bits = Bits.ofNat 11 Production.psSyncWord ++ psPresent :: rest := by
  constructor
  · rintro ⟨many, starts⟩
    have left : 0 < (bits.drop 11).length := by
      rw [List.length_drop]
      exact Nat.sub_pos_of_lt (Nat.lt_of_lt_of_le (by decide) many)
    obtain ⟨psPresent, rest, behind⟩ := List.exists_cons_of_length_pos left
    exact ⟨psPresent, rest, by rw [← starts, ← behind, List.take_append_drop]⟩
  · intro given
    obtain ⟨psPresent, rest, rfl⟩ := given
    constructor
    · simp [Production.psExtensionWidth]
      omega
    · rw [List.take_append_of_le_length (by simp), List.take_of_length_le (by simp)]

/-- Extensions take bits enough to be looked at, so in fewer bits there are none. -/
theorem Stream.tail_eq_default {bits : List Bool} {extension : Extension}
    (tail : Stream.Tail bits extension)
    (few : bits.length < Production.syncExtensionWidth) : extension = {} := by
  -- the word has eleven bits and the shortest object type five
  have shortest : ∀ (code : ObjectType) (rest : List Bool),
      ¬ (Stream.syncBits code ++ rest).length < Production.syncExtensionWidth := by
    intro code rest
    have five := code.five_le_length_bits
    simp only [Stream.syncBits, List.length_append, Bits.length_ofNat,
      Production.syncExtensionWidth]
    omega
  cases tail with
  | short => rfl
  | foreign => rfl
  | unknown => exact absurd few (shortest _ _)
  | absent => exact absurd few (shortest _ _)
  | replication =>
      rw [List.append_assoc] at few
      exact absurd few (shortest _ _)
  | stereo =>
      rw [List.append_assoc, List.append_assoc] at few
      exact absurd few (shortest _ _)
  | slicedAlone =>
      rw [List.append_assoc] at few
      exact absurd few (shortest _ _)
  | sliced =>
      rw [List.append_assoc, List.append_assoc] at few
      exact absurd few (shortest _ _)

namespace Production

variable {state stop : DecodeState}

/-- The production is granted and leaves a record behind. -/
def Leaves (production : Production Unit) (state : DecodeState) (config : DecoderConfig) : Prop :=
  ∃ stop, production state = .ok () stop ∧ stop.config = config

/-! ## Fields of an extension -/

/-- The flag of replication is granted alone, or with the frequency that it announces. -/
theorem sbrFlag_eq_ok_iff {present : Bool} :
    sbrFlag state = .ok present stop ↔
      (present = false ∧ [false] <+: state.remaining ∧
        stop = (state.advance 1).extend fun extension =>
          { extension with sbrPresent := false }) ∨
      (present = true ∧ ∃ doubled : SamplingFrequency, doubled.IsSignalled ∧
        true :: doubled.bits <+: state.remaining ∧
        stop = ((state.advance (true :: doubled.bits).length).log (.frequency doubled)).extend
          fun extension => { extension with sbrPresent := true, frequency := doubled }) := by
  simp only [sbrFlag, bind_eq_ok_iff, flag_eq_ok_iff, updateExtension_bind]
  constructor
  · intro given
    obtain ⟨used, _, ⟨first, rfl⟩, rest⟩ := given
    cases used with
    | false =>
        simp only [Bool.false_eq_true, if_false, pure_eq_ok_iff] at rest
        obtain ⟨rfl, rfl⟩ := rest
        exact .inl ⟨rfl, first, rfl⟩
    | true =>
        simp only [if_true, bind_eq_ok_iff, frequency_eq_ok_iff, updateExtension_bind,
          pure_eq_ok_iff] at rest
        obtain ⟨doubled, _, ⟨signalled, second, rfl⟩, rfl, rfl⟩ := rest
        refine .inr ⟨rfl, doubled, signalled, ?_, ?_⟩
        · rw [Bits.cons_prefix_iff]
          exact ⟨first, by simpa using second⟩
        · simp [DecodeState.extend, DecodeState.amend, DecodeState.log, DecodeState.advance,
            Nat.add_comm 1]
  · rintro (⟨rfl, first, rfl⟩ | ⟨rfl, doubled, signalled, front, rfl⟩)
    · refine ⟨false, _, ⟨first, rfl⟩, ?_⟩
      simp only [Bool.false_eq_true, if_false, pure_eq_ok_iff, true_and]
    · obtain ⟨first, second⟩ := Bits.cons_prefix_iff.mp front
      refine ⟨true, _, ⟨first, rfl⟩, ?_⟩
      simp only [if_true, bind_eq_ok_iff, frequency_eq_ok_iff, updateExtension_bind,
        pure_eq_ok_iff]
      refine ⟨doubled, _, ⟨signalled, by simpa using second, rfl⟩, trivial, ?_⟩
      simp [DecodeState.extend, DecodeState.amend, DecodeState.log, DecodeState.advance,
        Nat.add_comm 1]

theorem sbrFlag_of_false {rest : List Bool} (starts : state.remaining = false :: rest) :
    sbrFlag state = .ok false
      ((state.advance 1).extend fun extension => { extension with sbrPresent := false }) :=
  sbrFlag_eq_ok_iff.mpr (.inl ⟨rfl, ⟨rest, starts.symm⟩, rfl⟩)

/-- Behind a set flag and its frequency stands what follows them in the bits. -/
theorem sbrFlag_of_true (covered : state.Covered) {doubled : SamplingFrequency}
    (signalled : doubled.IsSignalled) {rest : List Bool}
    (starts : state.remaining = true :: doubled.bits ++ rest) :
    ∃ middle, sbrFlag state = .ok true middle ∧ middle.Covered ∧ middle.remaining = rest ∧
      middle.config = { state.config with
        extension := { state.config.extension with sbrPresent := true, frequency := doubled } } :=
  ⟨_, sbrFlag_eq_ok_iff.mpr (.inr ⟨rfl, doubled, signalled, ⟨rest, starts.symm⟩, rfl⟩),
    covered.advance (List.IsPrefix.length_le ⟨rest, starts.symm⟩),
    DecodeState.remaining_advance_of_eq_append starts, rfl⟩

/-- Parametric stereo is read where its word starts. -/
theorem psExtension_of_startsPs (covered : state.Covered) {psPresent : Bool} {rest : List Bool}
    (starts : state.remaining = Bits.ofNat 11 psSyncWord ++ psPresent :: rest) :
    psExtension state =
      .ok () ((state.advance 12).extend fun extension => { extension with psPresent }) := by
  have many : psExtensionWidth ≤ state.reader.available := by
    rw [← covered.length_remaining, starts]
    simp [psExtensionWidth]
    omega
  have word : number 11 state = .ok psSyncWord (state.advance 11) :=
    number_eq_ok_iff.mpr ⟨by decide, ⟨_, starts.symm⟩, rfl⟩
  have behind : flag (state.advance 11) = .ok psPresent (state.advance 12) := by
    refine flag_eq_ok_iff.mpr ⟨⟨rest, ?_⟩, by simp⟩
    rw [DecodeState.remaining_advance, starts]
    rfl
  simp only [psExtension, available_bind, if_pos many]
  rw [psWord, bind_of_ok word, if_pos rfl, bind_of_ok behind]
  rfl

/-- Where parametric stereo does not start, at most a foreign word is passed over. -/
theorem psExtension_of_not_startsPs (covered : state.Covered)
    (other : ¬ Stream.StartsPs state.remaining) :
    psExtension state =
      .ok () (state.advance (if psExtensionWidth ≤ state.remaining.length then 11 else 0)) := by
  simp only [psExtension, available_bind, ← covered.length_remaining]
  by_cases many : psExtensionWidth ≤ state.remaining.length
  · -- the word is read before it is known to be another one, and stays read
    rw [if_pos many, if_pos many]
    obtain ⟨word, fits, front, read⟩ :=
      number_of_le 11 (Nat.le_trans (by decide) many)
    have foreign : word ≠ psSyncWord := by
      rintro rfl
      exact other ⟨many, by
        rw [List.prefix_iff_eq_take, Bits.length_ofNat] at front
        exact front.symm⟩
    rw [psWord, bind_of_ok read, if_neg foreign]
    rfl
  · rw [if_neg many, if_neg many, DecodeState.advance_zero]
    rfl

/-- What spectral band replication has behind its object type. -/
theorem replication_leaves_iff (covered : state.Covered) {config : DecoderConfig} :
    replication.Leaves state config ↔
      (∃ rest, state.remaining = false :: rest ∧
        config = { state.config with
          extension := { state.config.extension with sbrPresent := false } }) ∨
      (∃ frequency rest, frequency.IsSignalled ∧ ¬ Stream.StartsPs rest ∧
        state.remaining = true :: frequency.bits ++ rest ∧
        config = { state.config with
          extension := { state.config.extension with sbrPresent := true, frequency } }) ∨
      (∃ frequency psPresent rest, frequency.IsSignalled ∧
        state.remaining =
          true :: frequency.bits ++ (Bits.ofNat 11 psSyncWord ++ psPresent :: rest) ∧
        config = { state.config with
          extension :=
            { state.config.extension with sbrPresent := true, psPresent, frequency } }) := by
  constructor
  · intro given
    obtain ⟨stop, granted, rfl⟩ := given
    obtain ⟨used, middle, found, last⟩ := bind_eq_ok_iff.mp granted
    rcases sbrFlag_eq_ok_iff.mp found with
      ⟨rfl, front, rfl⟩ | ⟨rfl, frequency, signalled, front, reached⟩
    · obtain ⟨-, rfl⟩ := pure_eq_ok_iff.mp last
      exact .inl ⟨_, DecodeState.remaining_eq_append front, rfl⟩
    · rw [if_pos rfl] at last
      have coveredBehind : middle.Covered := by
        rw [reached]
        exact covered.advance front.length_le
      have split : state.remaining = true :: frequency.bits ++ middle.remaining := by
        rw [reached]
        exact DecodeState.remaining_eq_append front
      -- what follows the frequency decides between the last two forms
      by_cases starts : Stream.StartsPs middle.remaining
      · obtain ⟨psPresent, rest, word⟩ := Stream.startsPs_iff.mp starts
        rw [psExtension_of_startsPs coveredBehind word] at last
        rw [word] at split
        cases last
        exact .inr (.inr ⟨frequency, psPresent, rest, signalled, split, by rw [reached]; rfl⟩)
      · rw [psExtension_of_not_startsPs coveredBehind starts] at last
        cases last
        exact .inr (.inl ⟨frequency, _, signalled, starts, split, by rw [reached]; rfl⟩)
  · rintro (⟨rest, split, rfl⟩ | ⟨frequency, rest, signalled, other, split, rfl⟩ |
      ⟨frequency, psPresent, rest, signalled, split, rfl⟩)
    · exact ⟨_, bind_of_ok (sbrFlag_of_false split) _, rfl⟩
    · obtain ⟨middle, found, coveredBehind, left, recorded⟩ :=
        sbrFlag_of_true covered signalled split
      rw [← left] at other
      exact ⟨_, (bind_of_ok found _).trans (psExtension_of_not_startsPs coveredBehind other),
        recorded⟩
    · obtain ⟨middle, found, coveredBehind, left, recorded⟩ :=
        sbrFlag_of_true covered signalled split
      refine ⟨_, (bind_of_ok found _).trans (psExtension_of_startsPs coveredBehind left), ?_⟩
      simp [recorded]

/-- What bit sliced coding has behind its object type. -/
theorem bitSliced_leaves_iff (covered : state.Covered) {config : DecoderConfig} :
    bitSliced.Leaves state config ↔
      (∃ channels rest, channels.length = 4 ∧ state.remaining = false :: channels ++ rest ∧
        config = { state.config with
          extension := { state.config.extension with sbrPresent := false } }) ∨
      (∃ frequency channels rest, frequency.IsSignalled ∧ channels.length = 4 ∧
        state.remaining = true :: frequency.bits ++ (channels ++ rest) ∧
        config = { state.config with
          extension := { state.config.extension with sbrPresent := true, frequency } }) := by
  constructor
  · intro given
    obtain ⟨stop, granted, rfl⟩ := given
    obtain ⟨used, middle, found, last⟩ := bind_eq_ok_iff.mp granted
    obtain ⟨enough, rfl⟩ := skip_eq_ok_iff.mp last
    -- the four bits are skipped whatever they are, so any four bits stand for them
    have four : (middle.remaining.take 4).length = 4 := by simp [enough]
    have behind := (List.take_append_drop 4 middle.remaining).symm
    rcases sbrFlag_eq_ok_iff.mp found with
      ⟨rfl, front, reached⟩ | ⟨rfl, frequency, signalled, front, reached⟩
    · have split : state.remaining = false :: middle.remaining := by
        rw [reached]
        exact DecodeState.remaining_eq_append front
      rw [behind] at split
      exact .inl ⟨_, _, four, split, by rw [reached]; rfl⟩
    · have split : state.remaining = true :: frequency.bits ++ middle.remaining := by
        rw [reached]
        exact DecodeState.remaining_eq_append front
      rw [behind] at split
      exact .inr ⟨frequency, _, _, signalled, four, split, by rw [reached]; rfl⟩
  · have skipped : ∀ {middle : DecodeState} {channels rest : List Bool}, channels.length = 4 →
        middle.remaining = channels ++ rest → skip 4 middle = .ok () (middle.advance 4) := by
      intro middle channels rest four left
      refine skip_eq_ok_iff.mpr ⟨?_, rfl⟩
      rw [left, List.length_append, four]
      exact Nat.le_add_right 4 rest.length
    rintro (⟨channels, rest, four, split, rfl⟩ |
      ⟨frequency, channels, rest, signalled, four, split, rfl⟩)
    · have left : ((state.advance 1).extend fun extension =>
          { extension with sbrPresent := false }).remaining = channels ++ rest := by
        have flagged : state.remaining = [false] ++ (channels ++ rest) := split
        exact DecodeState.remaining_advance_of_eq_append flagged
      exact ⟨_, (bind_of_ok (sbrFlag_of_false split) _).trans (skipped four left), rfl⟩
    · obtain ⟨middle, found, -, left, recorded⟩ := sbrFlag_of_true covered signalled split
      exact ⟨_, (bind_of_ok found _).trans (skipped four left), recorded⟩

/-! ## Extensions behind their word -/

theorem syncExtension_of_le (many : syncExtensionWidth ≤ state.reader.available) :
    syncExtension state = extensionWord state := by
  rw [syncExtension, get_bind]
  simp only [if_neg (Nat.not_lt.mpr many)]

/-- Extensions are granted exactly where an object type and its fields are in front. -/
theorem recognisedExtension_leaves_iff {config : DecoderConfig} :
    recognisedExtension.Leaves state config ↔
      ∃ code : ObjectType, code.IsCodable ∧ code.bits <+: state.remaining ∧
        (extensionFields code).Leaves
          (((state.advance code.bits.length).log (.objectType code)).extend
            fun extension => { extension with objectType := code }) config := by
  simp only [Leaves, recognisedExtension, codedExtension, bind_eq_ok_iff, objectType_eq_ok_iff,
    updateExtension_bind, config_bind, record_eq]
  constructor
  · intro given
    obtain ⟨_, ⟨code, _, ⟨codable, front, rfl⟩, _, reached, granted, last⟩, rfl⟩ := given
    cases last
    exact ⟨code, codable, front, reached, granted, rfl⟩
  · intro given
    obtain ⟨code, codable, front, reached, granted, rfl⟩ := given
    exact ⟨_, ⟨code, _, ⟨codable, front, rfl⟩, (), reached, granted, rfl⟩, rfl⟩

/-! ## Tails -/

/-- Fields that are granted are a tail behind their word and object type. -/
theorem tail_of_extensionFields {code : ObjectType} (codable : code.IsCodable)
    (covered : state.Covered) (plain : state.config.extension = { objectType := code })
    {config : DecoderConfig} (left : (extensionFields code).Leaves state config) :
    ∃ extension, Stream.Tail (Stream.syncBits code ++ state.remaining) extension ∧
      config = { state.config with extension } := by
  unfold extensionFields at left
  by_cases sbr : code = ObjectType.spectralBandReplication
  · rw [if_pos sbr, replication_leaves_iff covered, plain] at left
    subst sbr
    rcases left with ⟨rest, split, rfl⟩ | ⟨frequency, rest, signalled, alone, split, rfl⟩ |
      ⟨frequency, psPresent, rest, signalled, split, rfl⟩
    · rw [split]
      exact ⟨_, .absent, rfl⟩
    · rw [split, ← List.append_assoc]
      exact ⟨_, .replication signalled alone, rfl⟩
    · rw [split, ← List.append_assoc, ← List.append_assoc]
      exact ⟨_, .stereo psPresent signalled, rfl⟩
  · rw [if_neg sbr] at left
    by_cases sliced : code = ObjectType.resilientBitSliced
    · rw [if_pos sliced, bitSliced_leaves_iff covered, plain] at left
      subst sliced
      rcases left with ⟨channels, rest, four, split, rfl⟩ |
        ⟨frequency, channels, rest, signalled, four, split, rfl⟩
      · rw [split, ← List.append_assoc]
        exact ⟨_, .slicedAlone four, rfl⟩
      · rw [split, ← List.append_assoc, ← List.append_assoc]
        exact ⟨_, .sliced signalled four, rfl⟩
    · rw [if_neg sliced] at left
      obtain ⟨stop, granted, rfl⟩ := left
      obtain ⟨-, rfl⟩ := pure_eq_ok_iff.mp granted
      exact ⟨{ objectType := code }, .unknown codable sbr sliced, by rw [← plain]⟩

/-- Extensions behind the core coder are granted only where a tail stands. -/
theorem tail_of_extensionWord (covered : state.Covered)
    (many : syncExtensionWidth ≤ state.remaining.length)
    (plain : state.config.extension = {}) {config : DecoderConfig}
    (left : extensionWord.Leaves state config) :
    ∃ extension, Stream.Tail state.remaining extension ∧
      config = { state.config with extension } := by
  obtain ⟨stop, granted, rfl⟩ := left
  obtain ⟨word, middle, read, last⟩ := bind_eq_ok_iff.mp granted
  obtain ⟨fits, front, rfl⟩ := number_eq_ok_iff.mp read
  by_cases foreign : word ≠ sbrSyncWord
  · rw [if_pos foreign, record_eq] at last
    cases last
    refine ⟨{}, .foreign many ?_, by rw [← plain]; rfl⟩
    intro other
    have word_eq := (Bits.ofNat_prefix_iff.mp ⟨fits, front⟩).2
    rw [other, Bits.toNat_ofNat (by decide)] at word_eq
    exact foreign word_eq
  · -- word, object type and fields stand one behind the other
    rw [if_neg foreign] at last
    rw [Decidable.not_not.mp foreign] at front
    have split := DecodeState.remaining_eq_append front
    rw [Bits.length_ofNat] at split
    obtain ⟨code, codable, behind, left⟩ :=
      recognisedExtension_leaves_iff.mp ⟨stop, last, rfl⟩
    have coveredWord := covered.advance (front.length_le)
    rw [Bits.length_ofNat] at coveredWord
    have coveredCode := coveredWord.advance behind.length_le
    have splitCode := DecodeState.remaining_eq_append behind
    rw [split, splitCode, ← List.append_assoc]
    obtain ⟨extension, tail, same⟩ := tail_of_extensionFields codable (by exact coveredCode)
      (by simp [plain]) left
    exact ⟨extension, tail, same⟩

/-- Extensions are granted where their word, object type and fields stand. -/
theorem extensionWord_leaves_of_fields (covered : state.Covered) {code : ObjectType}
    (codable : code.IsCodable) {rest : List Bool}
    (split : state.remaining = Stream.syncBits code ++ rest) {config : DecoderConfig}
    (fields : ∀ middle : DecodeState, middle.Covered → middle.remaining = rest →
      middle.config =
        { state.config with extension := { state.config.extension with objectType := code } } →
      (extensionFields code).Leaves middle config) :
    extensionWord.Leaves state config := by
  have front : Stream.syncBits code <+: state.remaining := ⟨rest, split.symm⟩
  have enough := front.length_le
  have left := DecodeState.remaining_advance_of_eq_append split
  obtain ⟨word, behind⟩ := Bits.append_prefix_iff.mp front
  have width : (Stream.syncBits code).length = 11 + code.bits.length := by
    simp [Stream.syncBits]
  rw [width] at left enough
  have read : number 11 state = .ok sbrSyncWord (state.advance 11) :=
    number_eq_ok_iff.mpr ⟨by decide, word, rfl⟩
  have recognised : recognisedExtension.Leaves (state.advance 11) config := by
    refine recognisedExtension_leaves_iff.mpr ⟨code, codable, by simpa using behind, ?_⟩
    rw [DecodeState.advance_advance]
    exact fields _ (covered.advance enough) left rfl
  obtain ⟨stop, granted, same⟩ := recognised
  exact ⟨stop, (bind_of_ok read _).trans granted, same⟩

/-- Extensions behind the core coder are granted wherever a tail stands. -/
theorem extensionWord_leaves_of_tail (covered : state.Covered)
    (many : syncExtensionWidth ≤ state.remaining.length)
    (plain : state.config.extension = {}) {extension : Extension}
    (tail : Stream.Tail state.remaining extension) :
    extensionWord.Leaves state { state.config with extension } := by
  have sbrCodable : ObjectType.IsCodable ObjectType.spectralBandReplication := .inl (by decide)
  have slicedCodable : ObjectType.IsCodable ObjectType.resilientBitSliced := .inl (by decide)
  -- by the constructors: each gives the fields that the production of its type leaves
  generalize split : state.remaining = bits at tail
  cases tail with
  | short few => exact absurd (split ▸ many) (Nat.not_le.mpr few)
  | foreign many other =>
      have enough : 11 ≤ state.remaining.length := by
        rw [split]
        exact Nat.le_trans (by decide) many
      obtain ⟨word, fits, front, read⟩ := number_of_le 11 enough
      -- the word that is read is the one in front, which is not that of extensions
      have foreign : word ≠ sbrSyncWord := by
        rintro rfl
        rw [split, List.prefix_iff_eq_take, Bits.length_ofNat] at front
        exact other front.symm
      refine ⟨(state.advance 11).log (.foreignSyncWord word), ?_, by rw [← plain]; rfl⟩
      unfold extensionWord
      rw [bind_of_ok read, if_pos foreign, record_eq]
  | unknown codable notSbr notBitSliced =>
      refine extensionWord_leaves_of_fields covered codable split ?_
      intro middle _ _ recorded
      unfold extensionFields
      rw [if_neg notSbr, if_neg notBitSliced]
      refine ⟨middle, rfl, ?_⟩
      rw [recorded, plain]
  | absent =>
      refine extensionWord_leaves_of_fields covered sbrCodable split ?_
      intro middle coveredBehind left recorded
      unfold extensionFields
      rw [if_pos rfl, replication_leaves_iff coveredBehind, recorded, plain]
      exact .inl ⟨_, left, rfl⟩
  | @replication frequency rest signalled alone =>
      rw [List.append_assoc] at split
      refine extensionWord_leaves_of_fields covered sbrCodable split ?_
      intro middle coveredBehind left recorded
      unfold extensionFields
      rw [if_pos rfl, replication_leaves_iff coveredBehind, recorded, plain]
      exact .inr (.inl ⟨frequency, rest, signalled, alone, left, rfl⟩)
  | @stereo frequency rest psPresent signalled =>
      rw [List.append_assoc, List.append_assoc] at split
      refine extensionWord_leaves_of_fields covered sbrCodable split ?_
      intro middle coveredBehind left recorded
      unfold extensionFields
      rw [if_pos rfl, replication_leaves_iff coveredBehind, recorded, plain]
      exact .inr (.inr ⟨frequency, psPresent, rest, signalled, left, rfl⟩)
  | @slicedAlone channels rest four =>
      rw [List.append_assoc] at split
      refine extensionWord_leaves_of_fields covered slicedCodable split ?_
      intro middle coveredBehind left recorded
      unfold extensionFields
      rw [if_neg (by decide), if_pos rfl, bitSliced_leaves_iff coveredBehind,
        recorded, plain]
      exact .inl ⟨channels, rest, four, left, rfl⟩
  | @sliced frequency channels rest signalled four =>
      rw [List.append_assoc, List.append_assoc] at split
      refine extensionWord_leaves_of_fields covered slicedCodable split ?_
      intro middle coveredBehind left recorded
      unfold extensionFields
      rw [if_neg (by decide), if_pos rfl, bitSliced_leaves_iff coveredBehind,
        recorded, plain]
      exact .inr ⟨frequency, channels, rest, signalled, four, left, rfl⟩

end Production

/-! ## Refusals for a feature -/

namespace Production

theorem supported_sbrFlag : Supported sbrFlag := by
  refine .bind .flag fun used => .bind (.update _) fun _ => ?_
  split
  · exact .bind (.frequency fun _ => rfl) fun _ => .bind (.update _) fun _ => .pure _
  · exact .pure _

theorem refusesOnly_psExtension {others : DecodeError → Prop} :
    RefusesOnly others psExtension := by
  refine .bind .available fun _ => ?_
  split
  · refine .bind (.number 11) fun _ => ?_
    split
    · exact .bind .flag fun _ => .update _
    · exact .pure _
  · exact .pure _

theorem supported_extensionFields (code : ObjectType) : Supported (extensionFields code) := by
  unfold extensionFields
  split
  · refine .bind supported_sbrFlag fun _ => ?_
    split
    · exact refusesOnly_psExtension
    · exact .pure _
  · split
    · exact .bind supported_sbrFlag fun _ => .skip 4
    · exact .pure _

/-- No extension behind the core coder is refused for a feature. -/
theorem supported_extensionWord : Supported extensionWord := by
  refine .bind (.number 11) fun _ => ?_
  split
  · exact .record _
  · exact .bind .objectType fun code => .bind (.update _) fun _ =>
      .bind (supported_extensionFields code) fun _ => .bind .config fun _ => .record _

end Production

end AacConfig
