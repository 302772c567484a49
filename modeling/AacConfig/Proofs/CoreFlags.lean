import AacConfig.Proofs.Settling
import AacConfig.Proofs.Walks

/-!
# The flags of any core coder

Only two types of core coders are decoded, but their flags are read by a
production that knows the other types too. Started in any state, it goes along
`Stream.flagPlan`, and of the record it fills in the three flags that the bits
in front spell (`Production.coreFlags_exact`).
-/

namespace AacConfig

/-- The delay of a core coder is in front, behind the flag that announces it. Where that flag is
not set, the delay is zero. -/
def Stream.SpellsDelay (bits : List Bool) (delay : Nat) : Prop :=
  (delay = 0 ∧ ∃ frameLength, [frameLength, false] <+: bits) ∨
    (delay < 2 ^ 14 ∧ ∃ frameLength, frameLength :: true :: Bits.ofNat 14 delay <+: bits)

namespace Production

open AacConfig.Stream (IsLayered IsResilient Plan flagPlan leadingPlan closingPlan)
open DecoderConfig (Field)

variable {state : DecodeState}

/-! ## The way through the flags -/

theorem headD_drop (bits : List Bool) (count : Nat) :
    (bits.drop count).headD false = bits.getD count false := by
  rw [List.headD_eq_head?_getD, List.head?_drop, List.getD_eq_getElem?_getD]

/-- The last flag of an extended core coder, which is refused if it announces a payload. -/
def payloadPlan (bits : List Bool) : Plan :=
  (Plan.fields [1]).before
    { widths := []
      ending := if bits.headD false then some (.unsupported .extensionFlagPayload) else none }

/-- The plan of an extended core coder behind its leading flags, field by field. -/
theorem closingPlan_extended (code : ObjectType) (bits : List Bool) :
    closingPlan code true bits =
      (Plan.fields (if IsLayered code then [3] else [])).before
        ((Plan.fields (if code = ObjectType.resilientBitSliced then [16] else [])).before
          ((Plan.fields (if IsResilient code then [3] else [])).before
            (payloadPlan
              (((bits.drop (if IsLayered code then [3] else []).sum).drop
                (if code = ObjectType.resilientBitSliced then [16] else []).sum).drop
                (if IsResilient code then [3] else []).sum)))) := by
  simp only [closingPlan, payloadPlan, if_true, Plan.fields_before, List.append_assoc,
    List.append_nil, List.drop_drop, headD_drop, List.sum_append, Nat.add_assoc]

theorem hasLayerNumber_iff {code : ObjectType} : hasLayerNumber code ↔ IsLayered code := by
  simp [hasLayerNumber, IsLayered]

theorem hasResilienceFlags_iff {code : ObjectType} :
    hasResilienceFlags code ↔ IsResilient code := by
  simp [hasResilienceFlags, IsResilient, or_assoc]

theorem walks_delay (dependent : Bool) (state : DecodeState) :
    Walks state.reader (.fields (if dependent then [14] else [])) (delay dependent state) := by
  cases dependent with
  | false => exact .still rfl
  | true => exact .of_spans spans_number state

/-- The flags that every core coder has go along their plan. -/
theorem walks_leadingFlags (state : DecodeState) :
    Walks state.reader (leadingPlan state.remaining) (leadingFlags state) := by
  have second : (state.advance 1).remaining.headD false = state.remaining.getD 1 false := by
    rw [DecodeState.remaining_advance, headD_drop]
  have split : leadingPlan state.remaining =
      (Plan.fields [1]).before ((Plan.fields [1]).before
        ((Plan.fields (if state.remaining.getD 1 false then [14] else [])).before
          (.fields [1]))) := by
    unfold leadingPlan
    split <;> rfl
  rw [split, leadingFlags, ← second]
  apply Walks.flag_bind
  apply Walks.updated
  apply Walks.flag_bind
  apply Walks.updated
  refine .bind (walks_delay _ _) ?_
  intro value middle _ _
  apply Walks.updated
  exact .bind_still (.of_spans spans_flag _) fun _ _ => ⟨_, _, rfl, rfl⟩

theorem walks_payload (state : DecodeState) :
    Walks state.reader (payloadPlan state.remaining)
      ((flag >>= fun payload =>
        if payload then throw (.unsupported .extensionFlagPayload) else pure ()) state) := by
  apply Walks.flag_bind
  cases state.remaining.headD false with
  | false => exact .still rfl
  | true => exact .ends rfl

/-- The flags of a core coder behind the leading ones go along their plan. -/
theorem walks_closingFlags (extended : Bool) (state : DecodeState) :
    Walks state.reader
      (if state.config.layout = .programConfigElement then
        { widths := [], ending := some (.unsupported .programConfigElement) }
      else closingPlan state.config.objectType extended state.remaining)
      (closingFlags extended state) := by
  unfold closingFlags
  rw [config_bind]
  by_cases inside : state.config.layout = .programConfigElement
  · rw [if_pos inside, if_pos inside]
    exact .ends rfl
  · rw [if_neg inside, if_neg inside]
    simp only [hasLayerNumber_iff, hasResilienceFlags_iff]
    have three : Spans 3 (skip 3) := spans_skip
    have sixteen : Spans 16 (skip 16) := spans_skip
    -- without extensions only the layer number is left; with them three optional fields and a flag
    cases extended with
    | false =>
        rw [closingPlan, if_neg Bool.false_ne_true, ← Plan.before_nil (.fields _)]
        exact .optional (IsLayered state.config.objectType) three (.still rfl)
    | true =>
        rw [closingPlan_extended]
        simp only [← DecodeState.remaining_advance]
        exact .optional (IsLayered state.config.objectType) three
          (.optional (state.config.objectType = ObjectType.resilientBitSliced) sixteen
            (.optional (IsResilient state.config.objectType) three (walks_payload _)))

/-- Leading flags in front are as many bits as their plan says, and the last of them is the one
on which the rest depends. -/
theorem flags_of_front {flags : Stream.Flags} {bits : List Bool} (front : flags.bits <+: bits) :
    flags.bits.length = (leadingPlan bits).width ∧
      flags.extended = bits.getD ((leadingPlan bits).width - 1) false := by
  obtain ⟨rest, rfl⟩ := front
  obtain ⟨frameLength, delay, extended⟩ := flags
  cases delay with
  | none => exact ⟨rfl, rfl⟩
  | some delay =>
      have split : Stream.Flags.bits ⟨frameLength, some delay, extended⟩ ++ rest =
          (frameLength :: true :: Bits.ofNat 14 delay) ++ extended :: rest := by
        simp [Stream.Flags.bits]
      have width : (leadingPlan ((frameLength :: true :: Bits.ofNat 14 delay) ++
          extended :: rest)).width = 17 := rfl
      -- the last flag is the seventeenth bit, behind a delay of fourteen
      rw [split, width]
      refine ⟨by simp [Stream.Flags.bits], ?_⟩
      rw [List.getD_eq_getElem?_getD, List.getElem?_append_right (by simp)]
      simp

theorem walks_coreFlags (state : DecodeState) :
    Walks state.reader (flagPlan state.config state.remaining) (coreFlags state) := by
  rw [coreFlags]
  refine .bind (walks_leadingFlags state) ?_
  intro extended middle granted _
  obtain ⟨flags, -, rfl, front, rfl⟩ := leadingFlags_eq_ok_iff.mp granted
  obtain ⟨width, last⟩ := flags_of_front front
  have way := walks_closingFlags flags.extended (flags.after state)
  rw [Stream.Flags.remaining_after, width] at way
  rw [← last]
  exact way

/-! ## What the flags leave in the record -/

section Record

variable {γ : Type} {view : DecoderConfig → γ}

theorem fills_delay (dependent : Bool) : Fills [] (delay dependent) :=
  .ite (.number 14) (.pure 0)

theorem reads_delay (dependent : Bool) :
    Reads (fun value front => (dependent = false ∧ value = 0 ∧ front = []) ∨
      (dependent = true ∧ value < 2 ^ 14 ∧ front = Bits.ofNat 14 value)) (delay dependent) := by
  intro state value rest
  cases dependent with
  | false =>
      constructor
      · rintro ⟨_, granted, rfl⟩
        cases granted
        exact ⟨[], .inl ⟨rfl, rfl, rfl⟩, rfl⟩
      · rintro ⟨_, ⟨-, rfl, rfl⟩ | ⟨unset, -⟩, split⟩
        · exact ⟨state, rfl, split⟩
        · cases unset
  | true =>
      have read := @reads_number 14 state value rest
      simpa [delay] using read

theorem spares_delayFlags
    (apart : ∀ config coreCoderDelay, view { config with coreCoderDelay } = view config)
    (frameLengthFlag dependsOnCoreCoder : Bool) :
    Spares view (delayFlags frameLengthFlag dependsOnCoreCoder) :=
  .bind (.of_fills (fills_delay dependsOnCoreCoder)) fun _ =>
    .bind (.update fun config => apart config _) fun _ => .bind (.of_fills .flag) fun _ =>
    .bind (.of_fills (.record rfl)) fun _ => .of_fills (.pure _)

theorem leadingFlags_eq :
    leadingFlags = flag >>= fun frameLengthFlag =>
      update (fun config => { config with frameLengthFlag }) >>= fun _ =>
      dependenceFlags frameLengthFlag := rfl

theorem dependenceFlags_eq (frameLengthFlag : Bool) :
    dependenceFlags frameLengthFlag = flag >>= fun dependsOnCoreCoder =>
      update (fun config => { config with dependsOnCoreCoder }) >>= fun _ =>
      delayFlags frameLengthFlag dependsOnCoreCoder := rfl

theorem settles_frameLengthFlag :
    Settles (fun config => config.frameLengthFlag) (fun bits content => [content] <+: bits)
      leadingFlags := by
  have rest : ∀ frameLengthFlag,
      Spares (fun config => config.frameLengthFlag) (dependenceFlags frameLengthFlag) := fun _ =>
    .bind (.of_fills .flag) fun _ => .bind (.update fun _ => rfl) fun _ =>
      spares_delayFlags (fun _ _ => rfl) _ _
  rw [leadingFlags_eq]
  exact .flag fun frameLengthFlag =>
    .before (.update frameLengthFlag fun _ => rfl) fun _ => rest frameLengthFlag

theorem settles_dependsOnCoreCoder :
    Settles (fun config => config.dependsOnCoreCoder)
      (fun bits content => ∃ frameLengthFlag, [frameLengthFlag, content] <+: bits)
      leadingFlags := by
  rw [leadingFlags_eq]
  simp only [dependenceFlags_eq]
  refine .congr (.behind reads_flag (.of_fills .flag) fun frameLengthFlag =>
    .updated (fun _ => rfl) (.flag fun dependsOnCoreCoder =>
      .before (.update dependsOnCoreCoder fun _ => rfl) fun _ =>
        spares_delayFlags (fun _ _ => rfl) frameLengthFlag dependsOnCoreCoder)) ?_
  intro bits content
  constructor
  · rintro ⟨first, _, _, rfl, rfl, rest, rfl⟩
    exact ⟨first, rest, rfl⟩
  · rintro ⟨first, rest, rfl⟩
    exact ⟨first, _, _, rfl, rfl, rest, rfl⟩

theorem settles_coreCoderDelay :
    Settles (fun config => config.coreCoderDelay) Stream.SpellsDelay leadingFlags := by
  rw [leadingFlags_eq]
  simp only [dependenceFlags_eq, delayFlags]
  refine .congr (.behind reads_flag (.of_fills .flag) fun frameLengthFlag =>
    .updated (fun _ => rfl) (.behind reads_flag (.of_fills .flag) fun dependsOnCoreCoder =>
      .updated (fun _ => rfl) (.behind (reads_delay _) (.of_fills (fills_delay _)) fun delay =>
        .before (.update delay fun _ => rfl) fun _ => .bind (.of_fills .flag) fun _ =>
        .bind (.of_fills (.record rfl)) fun _ => .of_fills (.pure _)))) ?_
  intro bits content
  constructor
  · rintro ⟨first, _, _, rfl, rfl, _, _, _, rfl, rfl, _, _, rest,
      ⟨rfl, rfl, rfl⟩ | ⟨rfl, fits, rfl⟩, rfl, rfl⟩
    · exact .inl ⟨rfl, first, _, rfl⟩
    · exact .inr ⟨fits, first, rest, rfl⟩
  · rintro (⟨rfl, first, rest, rfl⟩ | ⟨fits, first, rest, rfl⟩)
    · exact ⟨first, _, _, rfl, rfl, false, _, _, rfl, rfl, 0, [], rest, .inl ⟨rfl, rfl, rfl⟩,
        rfl, rfl⟩
    · exact ⟨first, _, _, rfl, rfl, true, _, _, rfl, rfl, content, _, rest,
        .inr ⟨rfl, fits, rfl⟩, rfl, rfl⟩

end Record

/-- **The flags of any core coder, in any state.** The run goes along the plan of the flags: it
is granted, or refused for a layout described elsewhere or for a payload, exactly where every
field of the plan fits and the plan says so, and it ends in front of the first field that does not
fit. Whatever its outcome, each of the three flags of the record is what the bits spell, or what
it was where they do not spell it as a whole, and every other field stays as it was. -/
theorem coreFlags_exact (state : DecodeState) :
    Walks state.reader (flagPlan state.config state.remaining) (coreFlags state) ∧
    ((∃ stop, coreFlags state = .ok () stop) ↔
      (flagPlan state.config state.remaining).ending = none ∧
        (flagPlan state.config state.remaining).width ≤ state.remaining.length) ∧
    (∀ feature, (∃ stop, coreFlags state = .error (.unsupported feature) stop) ↔
      (flagPlan state.config state.remaining).ending = some (.unsupported feature) ∧
        (flagPlan state.config state.remaining).width ≤ state.remaining.length) ∧
    (∀ field, field ∉ Field.ofFlags →
      (ended (coreFlags state)).config.get field = state.config.get field) ∧
    Settled (fun flag => [flag] <+: state.remaining) state.config.frameLengthFlag
      (ended (coreFlags state)).config.frameLengthFlag ∧
    Settled (fun flag => ∃ first, [first, flag] <+: state.remaining)
      state.config.dependsOnCoreCoder (ended (coreFlags state)).config.dependsOnCoreCoder ∧
    Settled (Stream.SpellsDelay state.remaining) state.config.coreCoderDelay
      (ended (coreFlags state)).config.coreCoderDelay := by
  have walks := walks_coreFlags state
  -- all three are settled by the leading flags, and nothing behind them fills in a field
  have settles : ∀ {γ : Type} {view : DecoderConfig → γ} {spelled : List Bool → γ → Prop},
      Settles view spelled leadingFlags → Settles view spelled coreFlags := by
    intro γ view spelled leading
    rw [coreFlags]
    exact leading.before fun extended => .of_fills (.closingFlags extended)
  refine ⟨walks, ?_, fun _ => walks.eq_error_iff rfl, (Fills.coreFlags.touches state).others,
    settles settles_frameLengthFlag state, settles settles_dependsOnCoreCoder state,
    settles settles_coreCoderDelay state⟩
  apply Iff.trans _ walks.eq_ok_iff
  constructor
  · rintro ⟨stop, granted⟩
    exact ⟨(), stop, granted⟩
  · rintro ⟨_, stop, granted⟩
    exact ⟨stop, granted⟩

-- an error resilient core coder in layers, whose last flag announces a payload
example :
    flagPlan { objectType := ObjectType.resilientScalable, layout := .stereo }
      [false, false, true, true, false, true, false, false, false, true] =
    { widths := [1, 1, 1, 3, 3, 1], ending := some (.unsupported .extensionFlagPayload) } := by
  decide

end Production

end AacConfig
