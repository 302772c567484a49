import AacConfig.Proofs.Obstacles
import AacConfig.Stream.Plan

/-!
# Walks

How a run goes along a plan. `Walks reader plan result` says that the run reads
exactly the fields of the plan: it passes over all of them and is granted or
refused as the plan says, or it ends at the first field that does not fit,
where the reader has stopped. Nothing is asked of the reader, so its claim need
not be true.

A sequence goes along the plan of its first part and then along that of its
rest (`Walks.bind`). The plans of single steps are one field each, and those of
an object type and of a sampling frequency follow from them.
-/

namespace AacConfig

namespace BitReader

/-- The refusal of `count` bits that are not there. It tells the number of bits left where the
claim lacks them, and zero where only the data do. -/
def shortage (reader : BitReader) (count : Nat) : DecodeError :=
  .truncated count reader.position (if reader.available < count then reader.available else 0)

/-- Bits that are not there are refused, and the count stays. -/
theorem pass_of_remaining_lt {reader : BitReader} {capacity count : Nat}
    (narrow : count ≤ capacity) (few : reader.remaining.length < count) :
    pass capacity count reader = .error (reader.shortage count) (reader.stopped count) := by
  unfold shortage
  by_cases short : reader.available < count
  · rw [if_pos short, pass_of_available_lt capacity short, stopped_of_available_lt short]
  · have unfilled : reader.source.left < count := by
      rw [length_remaining] at few
      omega
    rw [if_neg short, pass_of_unfilled (Nat.not_lt.mp short) narrow unfilled]

end BitReader

namespace Stream.Plan

/-- A field and those in front of it are no more bits than the whole plan. -/
theorem le_width_of_split {plan : Plan} {front rest : List Nat} {width : Nat}
    (split : plan.widths = front ++ width :: rest) : front.sum + width ≤ plan.width := by
  rw [Plan.width, split, List.sum_append, List.sum_cons]
  omega

theorem before_of_ending {plan : Plan} (rest : Plan) (ending : plan.ending = none) :
    plan.before rest = { widths := plan.widths ++ rest.widths, ending := rest.ending } := by
  rw [before, ending]

theorem before_of_refusal {plan : Plan} (rest : Plan) {reason : DecodeError}
    (ending : plan.ending = some reason) : plan.before rest = plan := by
  rw [before, ending]

@[simp] theorem fields_before (widths : List Nat) (rest : Plan) :
    (fields widths).before rest =
      { widths := widths ++ rest.widths, ending := rest.ending } := rfl

/-- A plan with nothing behind it. -/
@[simp] theorem before_nil (plan : Plan) : plan.before (fields []) = plan := by
  obtain ⟨widths, ending⟩ := plan
  cases ending with
  | none => simp [before, fields]
  | some reason => rfl

end Stream.Plan

namespace Production

open AacConfig.Stream (Plan)

variable {α β : Type}

/-! ## Runs along a plan -/

/-- The run starts at the reader and goes along the plan. -/
inductive Walks (reader : BitReader) (plan : Plan) :
    EStateM.Result DecodeError DecodeState α → Prop
  /-- All fields are passed over, and nothing is refused. -/
  | granted {value : α} {stop : DecodeState} (ending : plan.ending = none)
      (fit : plan.width ≤ reader.remaining.length)
      (reached : stop.reader = reader.advance plan.width) : Walks reader plan (.ok value stop)
  /-- All fields are passed over, and the run is refused behind them. -/
  | refused {reason : DecodeError} {stop : DecodeState} (ending : plan.ending = some reason)
      (fit : plan.width ≤ reader.remaining.length)
      (reached : stop.reader = reader.advance plan.width) : Walks reader plan (.error reason stop)
  /-- The run ends at the first field that does not fit. -/
  | short {front rest : List Nat} {width : Nat} {stop : DecodeState}
      (split : plan.widths = front ++ width :: rest)
      (fit : front.sum ≤ reader.remaining.length)
      (few : reader.remaining.length < front.sum + width)
      (reached : stop.reader = (reader.advance front.sum).stopped width) :
      Walks reader plan (.error ((reader.advance front.sum).shortage width) stop)

namespace Walks

variable {reader : BitReader} {plan rest : Plan}
  {result : EStateM.Result DecodeError DecodeState α}

/-- A run is granted exactly where all fields fit and the plan ends without a refusal. -/
theorem eq_ok_iff (walks : Walks reader plan result) :
    (∃ value stop, result = .ok value stop) ↔
      plan.ending = none ∧ plan.width ≤ reader.remaining.length := by
  constructor
  · rintro ⟨value, stop, rfl⟩
    cases walks with
    | granted ending fit => exact ⟨ending, fit⟩
  · rintro ⟨ending, fit⟩
    cases walks with
    | granted => exact ⟨_, _, rfl⟩
    | refused refusal =>
        rw [ending] at refusal
        cases refusal
    | short split _ few =>
        have within := Plan.le_width_of_split split
        omega

/-- A run is refused for another reason than a lack of bits exactly where all fields fit and the
plan ends with that reason. -/
theorem eq_error_iff (walks : Walks reader plan result) {reason : DecodeError}
    (lasting : reason.isTruncated = false) :
    (∃ stop, result = .error reason stop) ↔
      plan.ending = some reason ∧ plan.width ≤ reader.remaining.length := by
  constructor
  · rintro ⟨stop, rfl⟩
    cases walks with
    | refused ending fit => exact ⟨ending, fit⟩
    | short => cases lasting
  · rintro ⟨ending, fit⟩
    cases walks with
    | granted plain =>
        rw [plain] at ending
        cases ending
    | refused refusal =>
        rw [refusal] at ending
        cases ending
        exact ⟨_, rfl⟩
    | short split _ few =>
        have within := Plan.le_width_of_split split
        omega

/-- A step that reads nothing. -/
theorem still {value : α} {stop : DecodeState} (same : stop.reader = reader) :
    Walks reader (.fields []) (.ok value stop) :=
  granted rfl (Nat.zero_le _) same

/-- A refusal that reads nothing. -/
theorem ends {reason : DecodeError} {stop : DecodeState} (same : stop.reader = reader) :
    Walks reader { widths := [], ending := some reason }
      (.error reason stop : EStateM.Result DecodeError DecodeState α) :=
  refused rfl (Nat.zero_le _) same

/-- Behind fields that fit, a run along the rest of a plan is one along the whole. -/
theorem behind {widths : List Nat} (fit : widths.sum ≤ reader.remaining.length)
    (walks : Walks (reader.advance widths.sum) rest result) :
    Walks reader ((Plan.fields widths).before rest) result := by
  have left : (reader.advance widths.sum).remaining.length =
      reader.remaining.length - widths.sum := by
    rw [BitReader.remaining_advance, List.length_drop]
  have width : ((Plan.fields widths).before rest).width = widths.sum + rest.width :=
    List.sum_append
  -- each outcome keeps its kind; only the places move by the fields in front
  cases walks with
  | granted ending fits reached =>
      rw [left] at fits
      rw [BitReader.advance_advance, ← width] at reached
      exact .granted ending (by omega) reached
  | refused ending fits reached =>
      rw [left] at fits
      rw [BitReader.advance_advance, ← width] at reached
      exact .refused ending (by omega) reached
  | @short front tail needed _ split fits few reached =>
      rw [left] at fits few
      rw [BitReader.advance_advance, ← List.sum_append] at reached ⊢
      have whole : ((Plan.fields widths).before rest).widths =
          widths ++ front ++ needed :: tail := by
        rw [Plan.fields_before, split, List.append_assoc]
      refine .short whole ?_ ?_ reached
      · rw [List.sum_append]
        omega
      · rw [List.sum_append]
        omega

/-- A sequence goes along the plan of its first part and, where this one is granted, along the
plan of its rest. -/
theorem bind {state : DecodeState} {first : Production α} {second : α → Production β}
    (start : Walks state.reader plan (first state))
    (next : ∀ value middle, first state = .ok value middle →
      middle.reader = state.reader.advance plan.width →
      Walks middle.reader rest (second value middle)) :
    Walks state.reader (plan.before rest) ((first >>= second) state) := by
  cases found : first state with
  | ok value middle =>
      rw [bind_of_ok found]
      rw [found] at start
      cases start with
      | granted ending fit reached =>
          have walks := next value middle found reached
          rw [reached] at walks
          rw [Plan.before_of_ending rest ending]
          exact behind fit walks
  | error reason middle =>
      rw [bind_of_error found]
      rw [found] at start
      cases start with
      | refused ending fit reached =>
          rw [Plan.before_of_refusal rest ending]
          exact .refused ending fit reached
      | @short front tail needed _ split fit few reached =>
          -- the fields behind the one that does not fit are never asked for
          have longer : ∃ more, (plan.before rest).widths = front ++ needed :: more := by
            cases ending : plan.ending with
            | none =>
                refine ⟨tail ++ rest.widths, ?_⟩
                rw [Plan.before_of_ending rest ending, split, List.append_assoc, List.cons_append]
            | some refusal => exact ⟨_, by rw [Plan.before_of_refusal rest ending, split]⟩
          obtain ⟨more, whole⟩ := longer
          exact .short whole fit few reached

end Walks

/-! ## Single fields -/

/-- A step reads one field of `width` bits, whatever its bits are. -/
structure Spans (width : Nat) (step : Production α) : Prop where
  granted : ∀ {state : DecodeState}, width ≤ state.remaining.length →
    ∃ value, step state = .ok value (state.advance width)
  refused : ∀ {state : DecodeState}, state.remaining.length < width →
    step state =
      .error (state.reader.shortage width) { state with reader := state.reader.stopped width }

/-- A field that is read moves the reader over it and changes nothing else. -/
theorem Spans.eq_advance {width : Nat} {step : Production α} (spans : Spans width step)
    {state stop : DecodeState} {value : α} (granted : step state = .ok value stop) :
    stop = state.advance width := by
  rcases Nat.lt_or_ge state.remaining.length width with few | enough
  · rw [spans.refused few] at granted
    cases granted
  · obtain ⟨found, same⟩ := spans.granted enough
    rw [same] at granted
    cases granted
    rfl

theorem spans_of_pass {capacity width : Nat} {look : BitReader → α}
    (narrow : width ≤ capacity) :
    Spans width (ofReading (BitReader.pass capacity width >>= fun start => pure (look start))) where
  granted := by
    intro state enough
    have passed := BitReader.pass_eq_ok_iff.mpr ⟨narrow, enough, rfl, rfl⟩
    refine ⟨look state.reader, ?_⟩
    rw [ofReading, bind_of_ok passed]
    rfl
  refused := by
    intro state few
    rw [ofReading, bind_of_error (BitReader.pass_of_remaining_lt narrow few)]

theorem spans_flag : Spans 1 flag :=
  spans_of_pass (Nat.le_refl 1)

theorem spans_readField {capacity width : Nat} (narrow : width ≤ capacity) :
    Spans width (ofReading (BitReader.readField capacity width)) :=
  spans_of_pass narrow

theorem spans_number {width : Nat} : Spans width (number width) :=
  spans_readField (Nat.le_refl width)

theorem spans_skip {width : Nat} : Spans width (skip width) :=
  spans_of_pass (Nat.le_refl width)

namespace Walks

variable {state : DecodeState} {plan rest : Plan}

theorem of_spans {width : Nat} {step : Production α} (spans : Spans width step)
    (state : DecodeState) : Walks state.reader (.fields [width]) (step state) := by
  by_cases enough : width ≤ state.remaining.length
  · obtain ⟨value, granted⟩ := spans.granted enough
    rw [granted]
    exact .granted rfl enough rfl
  · rw [spans.refused (Nat.not_le.mp enough)]
    have few : state.remaining.length < [].sum + width := by
      rw [List.sum_nil, Nat.zero_add]
      exact Nat.not_le.mp enough
    have walks := @short α state.reader (.fields [width]) [] [] width
      { state with reader := state.reader.stopped width } rfl (Nat.zero_le _) few
    rw [List.sum_nil, BitReader.advance_zero] at walks
    exact walks rfl

/-- A field that is read only under a condition, and a rest that follows in any case. -/
theorem optional (condition : Prop) [Decidable condition] {width : Nat}
    {step : Production Unit} {next : Production α} (spans : Spans width step)
    (behind : Walks (state.advance (if condition then [width] else []).sum).reader rest
      (next (state.advance (if condition then [width] else []).sum))) :
    Walks state.reader ((Plan.fields (if condition then [width] else [])).before rest)
      ((if condition then step >>= fun _ => next else next) state) := by
  by_cases holds : condition
  · simp only [if_pos holds, List.sum_singleton] at behind ⊢
    refine bind (of_spans spans state) ?_
    intro _ middle granted _
    rw [spans.eq_advance granted]
    exact behind
  · simp only [if_neg holds] at behind ⊢
    exact behind

/-- A sequence whose rest reads nothing. -/
theorem bind_still {first : Production α} {second : α → Production β}
    (start : Walks state.reader plan (first state))
    (rest : ∀ value middle, ∃ found stop, second value middle = .ok found stop ∧
      stop.reader = middle.reader) :
    Walks state.reader plan ((first >>= second) state) := by
  rw [← Plan.before_nil plan]
  refine bind start ?_
  intro value middle _ _
  obtain ⟨found, stop, granted, same⟩ := rest value middle
  rw [granted]
  exact still same

/-- A change of the record reads nothing. -/
theorem updated {change : DecoderConfig → DecoderConfig} {second : Unit → Production β}
    (next : Walks (state.amend change).reader plan (second () (state.amend change))) :
    Walks state.reader plan ((update change >>= second) state) :=
  next

/-- A number that is read first, and a rest that depends on it. -/
theorem readField_bind {capacity width : Nat} (narrow : width ≤ capacity)
    {second : Nat → Production β}
    (next : Walks (state.advance width).reader rest
      (second (Bits.toNat (state.remaining.take width)) (state.advance width))) :
    Walks state.reader ((Plan.fields [width]).before rest)
      ((ofReading (BitReader.readField capacity width) >>= second) state) := by
  refine bind (of_spans (spans_readField narrow) state) ?_
  intro value middle granted _
  obtain ⟨_, found, rfl⟩ := ofReading_eq_ok_iff.mp granted
  obtain ⟨fits, front, rfl⟩ := (BitReader.readField_eq_ok_iff narrow).mp found
  obtain ⟨-, same⟩ := Bits.ofNat_prefix_iff.mp ⟨fits, front⟩
  -- the number that was granted is the one in front, on which the rest of the plan depends
  rw [same]
  exact next

/-- A flag that is read first, and a rest that depends on it. -/
theorem flag_bind {second : Bool → Production β}
    (next : Walks (state.advance 1).reader rest
      (second (state.remaining.headD false) (state.advance 1))) :
    Walks state.reader ((Plan.fields [1]).before rest) ((flag >>= second) state) := by
  refine bind (of_spans spans_flag state) ?_
  intro value middle granted _
  obtain ⟨⟨bits, front⟩, rfl⟩ := flag_eq_ok_iff.mp granted
  rw [← front] at next
  exact next

/-! ## Codes of several fields -/

/-- Behind the escape stand six more bits. -/
theorem objectType (state : DecodeState) :
    Walks state.reader (Stream.codePlan state.remaining) (objectType state) := by
  have split : Stream.codePlan state.remaining =
      (Plan.fields [5]).before (.fields
        (if Bits.toNat (state.remaining.take 5) = ObjectType.escape then [6] else [])) := by
    unfold Stream.codePlan
    split <;> rfl
  have read : Walks state.reader (Stream.codePlan state.remaining)
      (ofReading ObjectType.read state) := by
    rw [split, ObjectType.read, ofReading_bind]
    apply readField_bind (show 5 ≤ 8 by omega)
    by_cases escaped : Bits.toNat (state.remaining.take 5) = ObjectType.escape
    · have spans : Spans 6 (ofReading (BitReader.readField 8 6)) :=
        spans_readField (by omega)
      rw [if_pos escaped, if_pos escaped, ofReading_bind]
      exact bind_still (of_spans spans _) fun _ _ => ⟨_, _, rfl, rfl⟩
    · rw [if_neg escaped, if_neg escaped]
      exact still rfl
  exact bind_still read fun _ _ => ⟨_, _, rfl, rfl⟩

/-- Behind an index stand 24 bits if it announces them, and a reserved index is refused. -/
theorem frequency (state : DecodeState) :
    Walks state.reader (Stream.frequencyPlan state.remaining) (frequency state) := by
  have split : ∀ index, (if index = 13 ∨ index = 14 then
        { widths := [4], ending := some (.reservedFrequencyIndex index) }
      else
        .fields (if index = SamplingFrequency.explicitIndex then [4, 24] else [4]) : Plan) =
      (Plan.fields [4]).before
        (if index = 13 ∨ index = 14 then
          { widths := [], ending := some (.reservedFrequencyIndex index) }
        else
          .fields (if index = SamplingFrequency.explicitIndex then [24] else [])) := by
    intro index
    split
    · rfl
    · split <;> rfl
  have read : Walks state.reader (Stream.frequencyPlan state.remaining)
      (ofReading SamplingFrequency.read state) := by
    rw [Stream.frequencyPlan, split, SamplingFrequency.read, ofReading_bind]
    apply readField_bind (show 4 ≤ 8 by omega)
    have fits : Bits.toNat (state.remaining.take 4) < 2 ^ 4 := by
      apply Nat.lt_of_lt_of_le (Bits.toNat_lt _)
      exact Nat.pow_le_pow_right (by omega) (List.length_take_le 4 state.remaining)
    have reserved := SamplingFrequency.isReserved_iff fits
    unfold SamplingFrequency.IsReserved at reserved
    generalize Bits.toNat (state.remaining.take 4) = index at reserved
    by_cases written : index = SamplingFrequency.explicitIndex
    · have spans : Spans 24 (ofReading (BitReader.readField 32 24)) :=
        spans_readField (by omega)
      rw [if_pos written, if_neg fun meant => (reserved.mp meant).1 written, if_pos written,
        ofReading_bind]
      exact bind_still (of_spans spans _) fun _ _ => ⟨_, _, rfl, rfl⟩
    · rw [if_neg written, if_neg written]
      cases listed : SamplingFrequency.table[index]? with
      | some hertz =>
          have meaning : ¬ (index = 13 ∨ index = 14) := by
            rw [reserved, listed]
            exact fun meant => Option.some_ne_none hertz meant.2
          rw [if_neg meaning]
          exact still rfl
      | none =>
          rw [if_pos (reserved.mpr ⟨written, listed⟩)]
          exact ends rfl
  exact bind_still read fun _ _ => ⟨_, _, rfl, rfl⟩

end Walks

end Production

end AacConfig
