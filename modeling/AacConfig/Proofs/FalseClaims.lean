import AacConfig.Proofs.Cursor

/-!
# Claims that are not true

A reader may be told another length than its data have. It then gives out what
the claim and the data both hold, and nothing else (`serve_of_any_claim`): with
a smaller claim it stops earlier, and with a claim that the data cannot meet it
stops where the data end, with a refusal that says that no bits are left.

Two places are kept. The position of the reader counts what was granted, and
the place of its source also what a request beyond the end has lost
(`Overruns`). They are the same until the first such request (`InStep.behind`),
and behind it the source is ahead (`Inside`), so that neither of them passes
the end of the data.

`Widens` relates two readers of the same data at the same place, of which the
second may give out at least what the first really has. What the first one
grants, the second one grants too, and the relation is kept; so sequences of
requests follow by induction.
-/

namespace AacConfig.BitReader

/-! ## One request, whatever is claimed -/

/-- A granted request finds room everywhere, and the reader moves over its bits. -/
theorem step_of_ok {reader : BitReader} {request : Request} {answer : Answer}
    (granted : (reader.step request).1 = .ok answer) :
    request.width ≤ reader.available ∧ request.width ≤ request.capacity ∧
      request.width ≤ reader.source.left ∧
      reader.step request = (.ok (request.reading reader), reader.advance request.width) := by
  have takes := reader.takes_step request
  generalize reader.step request = stepped at takes granted
  cases takes with
  | refused => cases granted
  | overrun => cases granted
  | granted fits narrow filled => exact ⟨fits, narrow, filled, rfl⟩

/-! ## The end of the data -/

/-- A reader of some bytes of which `total` bits are claimed, whose source is not behind it. -/
structure Inside (bytes : List UInt8) (total : Nat) (reader : BitReader) : Prop where
  data : reader.source.data = bytes
  length : reader.length = total
  ahead : reader.position ≤ reader.source.place

namespace Inside

variable {data : List UInt8} {total : Nat} {reader : BitReader}

theorem ofClaim {count : Nat} (fits : count < 2 ^ 61) (losses : List Loss) :
    Inside data (8 * count) (ofClaim data count losses) where
  data := rfl
  length := by
    have word : 8 * count < UInt64.size := by
      show 8 * count < 2 ^ 64
      omega
    simp [BitReader.ofClaim, BitReader.length, Nat.mod_eq_of_lt word]
  ahead := Nat.le_refl 0

/-- What the source still has lies in front of the end of the data. -/
theorem position_add_left_le (inside : Inside data total reader) :
    reader.position + reader.source.left ≤ 8 * data.length := by
  have within := reader.source.within
  have ahead := inside.ahead
  rw [inside.data] at within
  omega

theorem stopped (inside : Inside data total reader) (count : Nat) :
    Inside data total (reader.stopped count) := by
  refine ⟨?_, (length_stopped reader count).trans inside.length, ?_⟩
  · unfold BitReader.stopped
    split
    · exact inside.data
    · exact (BitSource.data_overrun _).trans inside.data
  · rw [position_stopped]
    unfold BitReader.stopped
    split
    · exact inside.ahead
    · exact Nat.le_trans inside.ahead (BitSource.place_le_overrun _)

theorem step (inside : Inside data total reader) (request : Request) :
    Inside data total (reader.step request).2 := by
  have takes := reader.takes_step request
  generalize reader.step request = stepped at takes
  cases takes with
  | refused => exact inside
  | overrun => exact inside.stopped _
  | granted fits narrow filled =>
      refine ⟨inside.data, (length_advance fits).trans inside.length, ?_⟩
      rw [source_advance, BitSource.place_advance filled, position_advance]
      exact Nat.add_le_add_right inside.ahead _

theorem behind (inside : Inside data total reader) (requests : List Request) :
    Inside data total (reader.behind requests) := by
  induction requests generalizing reader with
  | nil => exact inside
  | cons request rest ih => exact ih (inside.step request)

/-- No request is granted that goes beyond the claim or the data. -/
theorem le_of_granted {count : Nat} (inside : Inside data (8 * count) reader) {request : Request}
    {answer : Answer} (granted : (reader.step request).1 = .ok answer) :
    reader.position + request.width ≤ 8 * min count data.length := by
  obtain ⟨fits, -, filled, -⟩ := step_of_ok granted
  have length := inside.length
  have end_le := inside.position_add_left_le
  rw [BitReader.length] at length
  omega

/-- A request that fits the claim and not the data finds no bits left, and moves no position. -/
theorem step_of_beyond (inside : Inside data total reader) {request : Request}
    (fits : request.width ≤ reader.available)
    (beyond : 8 * data.length < reader.position + request.width) :
    (reader.step request).1 = .error (.truncated request.width reader.position 0) ∧
      (reader.step request).2.position = reader.position ∧
      (reader.step request).2.available = reader.available := by
  have end_le := inside.position_add_left_le
  have unfilled : reader.source.left < request.width := by omega
  rw [BitReader.step, request.run_eq]
  by_cases wide : request.capacity < request.width
  · rw [bind_of_error (pass_of_wide fits wide)]
    exact ⟨rfl, rfl, rfl⟩
  · rw [bind_of_error (pass_of_unfilled fits (Nat.not_lt.mp wide) unfilled)]
    exact ⟨rfl, position_stopped reader _, available_stopped reader _⟩

end Inside

/-! ## The place of the source -/

/-- The source has come as far as the reader, and nothing of it is lost. -/
structure InStep (reader : BitReader) : Prop where
  place : reader.source.place = reader.position
  left : reader.position + reader.source.left = 8 * reader.source.data.length

namespace InStep

variable {reader : BitReader}

theorem ofClaim (data : List UInt8) (count : Nat) (losses : List Loss) :
    (ofClaim data count losses).InStep where
  place := rfl
  left := Nat.zero_add _

/-- Only a request beyond the end of the data loses bits. -/
theorem step (inStep : reader.InStep) {request : Request} (within : ¬ reader.Overruns request) :
    (reader.step request).2.InStep := by
  have takes := reader.takes_step request
  generalize reader.step request = stepped at takes
  cases takes with
  | refused => exact inStep
  | overrun overruns => exact absurd overruns within
  | granted fits narrow filled =>
      refine ⟨?_, ?_⟩
      · rw [source_advance, BitSource.place_advance filled, inStep.place, position_advance]
      · have whole := inStep.left
        rw [source_advance, BitSource.left_advance, BitSource.data_advance, position_advance]
        omega

/-- The source keeps in step until a request goes beyond its end. -/
theorem behind (inStep : reader.InStep) {requests : List Request}
    (within : ∀ front request rest, requests = front ++ request :: rest →
      ¬ (reader.behind front).Overruns request) : (reader.behind requests).InStep := by
  induction requests generalizing reader with
  | nil => exact inStep
  | cons request rest ih =>
      refine ih (inStep.step (within [] request rest rfl)) ?_
      intro front next others split
      exact within (request :: front) next others (by rw [split, List.cons_append])

end InStep

/-! ## Two claims -/

/-- Two readers of the same data at the same place, of which the second may give out what the
first really has. -/
structure Widens (reader wider : BitReader) : Prop where
  data : wider.source.data = reader.source.data
  place : wider.source.place = reader.source.place
  left : wider.source.left = reader.source.left
  position : wider.position = reader.position
  available : reader.remaining.length ≤ wider.available

namespace Widens

variable {reader wider : BitReader}

/-- What a reader grants is granted with the wider claim too, and with the same answer. -/
theorem step (widens : reader.Widens wider) {request : Request} {answer : Answer}
    (granted : (reader.step request).1 = .ok answer) :
    (wider.step request).1 = .ok answer ∧
      (reader.step request).2.Widens (wider.step request).2 := by
  obtain ⟨data, place, left, position, available⟩ := widens
  obtain ⟨fits, narrow, filled, stepped⟩ := step_of_ok granted
  have within : request.width ≤ wider.available := by
    rw [length_remaining] at available
    omega
  -- an answer depends on the data and the place of the source, which the two readers share
  have same : request.reading wider = request.reading reader := by
    cases request <;> simp [Request.reading, data, place]
  have wide : wider.step request = (.ok (request.reading wider), wider.advance request.width) := by
    rw [BitReader.step, request.run_eq, bind_of_ok (pass_of_fits within narrow (left ▸ filled))]
    rfl
  rw [stepped] at granted
  rw [stepped, wide]
  refine ⟨by rw [same]; exact granted, data, ?_, ?_, ?_, ?_⟩
  · show wider.source.place + min request.width wider.source.left =
      reader.source.place + min request.width reader.source.left
    rw [place, left]
  · show wider.source.left - request.width = reader.source.left - request.width
    rw [left]
  · show wider.position + request.width = reader.position + request.width
    rw [position]
  · rw [remaining_advance, List.length_drop, available_advance]
    omega

/-- As long as a reader grants what it is asked for, one with the wider claim serves the same. -/
theorem serve (widens : reader.Widens wider) (requests : List Request) :
    (reader.serve requests).takeWhile (fun served => served.1.isOk) <+: wider.serve requests := by
  induction requests generalizing reader wider with
  | nil => exact List.nil_prefix
  | cons request rest ih =>
      rw [serve_cons, serve_cons]
      -- a refusal ends what is compared, and the relation need not be kept behind it
      cases served : (reader.step request).1 with
      | error reason => exact List.nil_prefix
      | ok answer =>
          obtain ⟨same, still⟩ := widens.step served
          rw [List.takeWhile_cons_of_pos rfl, same, still.position]
          exact (List.prefix_cons_inj _).mpr (ih still)

end Widens

theorem available_ofClaim {data : List UInt8} {count : Nat} (fits : count < 2 ^ 61)
    (losses : List Loss) : (ofClaim data count losses).available = 8 * count := by
  have inside : Inside data (8 * count) (ofClaim data count losses) := .ofClaim fits losses
  rw [← inside.length, BitReader.length]
  show _ = 0 + _
  rw [Nat.zero_add]

/-- A claim grants what another one does that is smaller, or has no more to give out. -/
theorem widens_ofClaim {data : List UInt8} {count wider : Nat}
    (le : min count data.length ≤ wider) (small : count < 2 ^ 61) (fits : wider < 2 ^ 61)
    (losses widerLosses : List Loss) :
    (ofClaim data count losses).Widens (ofClaim data wider widerLosses) where
  data := rfl
  place := rfl
  left := rfl
  position := rfl
  available := by
    rw [length_remaining, available_ofClaim fits, available_ofClaim small]
    show min (8 * count) (8 * data.length) ≤ _
    omega

/-- **A false claim neither makes bits up nor lets hidden ones through.** As long as a reader of
some data grants what it is asked for, one with a wider claim serves the same, and so does a
cursor over the bits of those bytes that are claimed and there. Whatever was asked for before,
refused requests among it, and whatever a source lost on the way, the reader is not behind the end
of the claim or of the data, and it grants nothing that would move it there. A request that fits the
claim and not the data is refused with no bits left, and moves no position. Until then the
source is where the reader is, and has the bits up to the end of the data. -/
theorem serve_of_any_claim (data : List UInt8) {count wider : Nat} (le : count ≤ wider)
    (fits : wider < 2 ^ 61) (losses widerLosses : List Loss) (requests : List Request) :
    ((ofClaim data count losses).serve requests).takeWhile (fun served => served.1.isOk) <+:
      (ofClaim data wider widerLosses).serve requests ∧
    ((ofClaim data count losses).serve requests).takeWhile (fun served => served.1.isOk) <+:
      (Cursor.ofBytes (data.take count)).serve requests ∧
    ((ofClaim data count losses).behind requests).position ≤ 8 * min count data.length ∧
    (∀ request answer,
      (((ofClaim data count losses).behind requests).step request).1 = .ok answer →
        ((ofClaim data count losses).behind requests).position + request.width ≤
          8 * min count data.length) ∧
    (∀ request, request.width ≤ ((ofClaim data count losses).behind requests).available →
      8 * data.length <
        ((ofClaim data count losses).behind requests).position + request.width →
      (((ofClaim data count losses).behind requests).step request).1 =
          .error (.truncated request.width
            ((ofClaim data count losses).behind requests).position 0) ∧
        (((ofClaim data count losses).behind requests).step request).2.position =
          ((ofClaim data count losses).behind requests).position ∧
        (((ofClaim data count losses).behind requests).step request).2.available =
          ((ofClaim data count losses).behind requests).available) ∧
    ((∀ front request rest, requests = front ++ request :: rest →
        ¬ ((ofClaim data count losses).behind front).Overruns request) →
      ((ofClaim data count losses).behind requests).InStep) := by
  have small : count < 2 ^ 61 := Nat.lt_of_le_of_lt le fits
  have start : Inside data (8 * count) (ofClaim data count losses) := .ofClaim small losses
  have inside := start.behind requests
  refine ⟨?_, ?_, ?_, ?_, ?_, ?_⟩
  · have less := Nat.le_trans (Nat.min_le_left count data.length) le
    exact (widens_ofClaim less small fits losses widerLosses).serve requests
  · have held : min count data.length ≤ data.length := Nat.min_le_right _ _
    have bits : data.take (min count data.length) = data.take count := by simp
    have less : min count data.length < 2 ^ 61 := by omega
    -- a claim of what is there is the middle term: it is served as a cursor is, and it grants
    -- what the given claim does
    rw [← bits, ← cursor_ofClaim held less [], (covered_ofClaim held []).serve_cursor]
    exact (widens_ofClaim (Nat.le_refl _) small less losses []).serve requests
  · have length := inside.length
    have end_le := inside.position_add_left_le
    rw [BitReader.length] at length
    omega
  · intro request answer granted
    exact inside.le_of_granted granted
  · intro request claimed beyond
    exact inside.step_of_beyond claimed beyond
  · intro within
    exact (InStep.ofClaim data count losses).behind within

/-- Two bytes of which one is claimed, or three. The larger claim grants what the smaller one
grants, and then finds the end of the data. -/
theorem serve_of_any_claim_two :
    (1 ≤ 3 ∧ 3 < 2 ^ 61) ∧
    ((ofClaim [0xAB, 0xCD] 1 []).serve [.field 8 4, .bit, .skip 3, .bit]).takeWhile
        (fun served => served.1.isOk) =
      [(.ok (.number 10), 4), (.ok (.bit true), 5), (.ok .moved, 8)] ∧
    [(.ok (.number 10), 4), (.ok (.bit true), 5), (.ok .moved, 8)] <+:
      (ofClaim [0xAB, 0xCD] 3 []).serve [.field 8 4, .bit, .skip 3, .bit] ∧
    (((ofClaim [0xAB, 0xCD] 3 []).behind [.skip 12]).step (.skip 9)).1 =
      .error (.truncated 9 12 0) ∧
    (((ofClaim [0xAB, 0xCD] 3 []).behind [.skip 12]).step (.skip 9)).2.position = 12 := by
  have narrow := serve_of_any_claim [0xAB, 0xCD] (show 1 ≤ 3 by decide) (by decide) [] []
    [.field 8 4, .bit, .skip 3, .bit]
  have wide := serve_of_any_claim [0xAB, 0xCD] (Nat.le_refl 3) (by decide) [] [] [.skip 12]
  obtain ⟨refused, stays, -⟩ := wide.2.2.2.2.1 (.skip 9) (by decide) (by decide)
  exact ⟨by decide, rfl, narrow.1, refused, stays⟩

/-- Behind a request beyond the end of the data no bits may be left, or those that were kept are
given out. -/
example :
    (ofClaim [0xAB, 0xCD] 3 []).serve [.skip 17, .field 8 8] =
      [(.error (.truncated 17 0 0), 0), (.error (.truncated 8 0 0), 0)] ∧
    (ofClaim [0xAB, 0xCD] 3 [⟨4, 12⟩]).serve [.skip 17, .field 8 8] =
      [(.error (.truncated 17 0 0), 0), (.ok (.number 0xBC), 8)] :=
  ⟨rfl, rfl⟩

end AacConfig.BitReader
