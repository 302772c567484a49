import AacConfig.BitReader.Cursor
import AacConfig.Proofs.Reads

/-!
# Readers are cursors

A reader that claims no more than its data hold serves every sequence of
requests, refused ones among them, as a cursor over the list of its bits does
(`BitReader.serve_ofClaim`). One request is looked at on its own
(`Covered.step_cursor`); a sequence follows by induction, as a request keeps the
reader's claim true and its source in step (`Covered.step`).
-/

namespace AacConfig.BitReader

/-- The cursor that a reader stands for: the bits that it gives out from start to end, and its
position in them. -/
def cursor (reader : BitReader) : Cursor where
  bits := (Bits.ofBytes reader.source.data).take reader.length
  place := reader.position

@[simp] theorem place_cursor (reader : BitReader) : reader.cursor.place = reader.position := rfl

theorem cursor_advance {reader : BitReader} {count : Nat} (fits : count ≤ reader.available) :
    (reader.advance count).cursor = reader.cursor.advance count := by
  simp only [cursor, Cursor.advance, length_advance fits, source_advance, BitSource.data_advance,
    position_advance]

/-- The bits of a claim that the data hold are those of the bytes that are claimed. -/
theorem cursor_ofClaim {data : List UInt8} {count : Nat} (held : count ≤ data.length)
    (fits : count < 2 ^ 61) (losses : List Loss) :
    (ofClaim data count losses).cursor = .ofBytes (data.take count) := by
  have word : 8 * count % UInt64.size = 8 * count := Nat.mod_eq_of_lt (by
    show 8 * count < 2 ^ 64
    omega)
  have split : (Bits.ofBytes data).take (8 * count) = Bits.ofBytes (data.take count) := by
    conv => lhs; rw [← List.take_append_drop count data, Bits.ofBytes_append]
    rw [List.take_left' (by simp [held])]
  simp only [cursor, Cursor.ofBytes, ofClaim, BitSource.ofBytes, length, Nat.zero_add, word, split]

theorem covered_ofClaim {data : List UInt8} {count : Nat} (held : count ≤ data.length)
    (losses : List Loss) : (ofClaim data count losses).Covered where
  available_le := Nat.le_trans (Nat.mod_le (8 * count) UInt64.size) (Nat.mul_le_mul_left 8 held)
  inStep := rfl

/-! ## One request -/

/-- What a request reads from the reader that was passed. -/
def Request.reading : Request → BitReader → Answer
  | bit, start => .bit (bitAt start.source.data start.source.place)
  | field _ count, start => .number (fieldAt start.source.data start.source.place count)
  | skip _, _ => .moved

/-- Every request passes its bits first and then looks at what it passed. -/
theorem Request.run_eq (request : Request) :
    request.run = pass request.capacity request.width >>= fun start =>
      pure (request.reading start) := by
  cases request <;> simp [run, readBit, readField, BitReader.skip, reading, capacity, width]

/-- The claim and the taker have room for a request, and the source does not have its bits. -/
def Overruns (reader : BitReader) (request : Request) : Prop :=
  request.width ≤ reader.available ∧ request.width ≤ request.capacity ∧
    reader.source.left < request.width

/-- How a reader may take a request. -/
inductive Takes (reader : BitReader) (request : Request) : Outcome × BitReader → Prop
  /-- The claim or the taker has no room. -/
  | refused {reason : DecodeError}
      (room : reader.available < request.width ∨ request.capacity < request.width) :
      Takes reader request (.error reason, reader)
  /-- The source does not have the bits. -/
  | overrun (overruns : reader.Overruns request) :
      Takes reader request
        (.error (.truncated request.width reader.position 0), reader.stopped request.width)
  /-- The bits are given out. -/
  | granted (fits : request.width ≤ reader.available)
      (narrow : request.width ≤ request.capacity)
      (filled : request.width ≤ reader.source.left) :
      Takes reader request (.ok (request.reading reader), reader.advance request.width)

theorem takes_step (reader : BitReader) (request : Request) :
    Takes reader request (reader.step request) := by
  rw [step, request.run_eq]
  -- the checks in the order the reader makes them: the claim, the taker, the source
  by_cases short : reader.available < request.width
  · rw [bind_of_error (pass_of_available_lt request.capacity short)]
    exact .refused (.inl short)
  · have fits := Nat.not_lt.mp short
    by_cases wide : request.capacity < request.width
    · rw [bind_of_error (pass_of_wide fits wide)]
      exact .refused (.inr wide)
    · have narrow := Nat.not_lt.mp wide
      by_cases unfilled : reader.source.left < request.width
      · rw [bind_of_error (pass_of_unfilled fits narrow unfilled)]
        exact .overrun ⟨fits, narrow, unfilled⟩
      · have filled := Nat.not_lt.mp unfilled
        rw [bind_of_ok (pass_of_fits fits narrow filled)]
        exact .granted fits narrow filled

namespace Covered

variable {reader : BitReader}

@[simp] theorem left_cursor (covered : reader.Covered) : reader.cursor.left = reader.available := by
  have within := reader.source.within
  have available := covered.available_le
  rw [covered.inStep] at within
  simp only [Cursor.left, cursor, length, List.length_take, Bits.length_ofBytes]
  omega

/-- The bits from the place of the cursor on are those in front of the reader. -/
theorem remaining_cursor (covered : reader.Covered) :
    reader.cursor.remaining = reader.remaining := by
  rw [remaining, covered.inStep, Nat.min_eq_left covered.available_le]
  show ((Bits.ofBytes reader.source.data).take reader.length).drop reader.position = _
  simp [length, List.drop_take]

/-- What a request reads is what the bits in front of the reader answer. -/
theorem answer_eq (covered : reader.Covered) {request : Request}
    (fits : request.width ≤ reader.available) :
    request.answer (reader.remaining.take request.width) = request.reading reader := by
  cases request with
  | bit => exact congrArg Answer.bit (covered.headD_take fits)
  | field capacity count =>
      have enough : count ≤ reader.remaining.length := by
        rw [covered.length_remaining]
        exact fits
      exact congrArg Answer.number (toNat_take_remaining enough)
  | skip count => rfl

/-- What a request comes to is told by its width, its room and the bits in front. -/
theorem run_eq_ite (covered : reader.Covered) (request : Request) :
    request.run reader =
      if reader.available < request.width then
        .error (.truncated request.width reader.position reader.available) reader
      else if request.capacity < request.width then
        .error (.truncated request.width reader.position 0) reader
      else
        .ok (request.answer (reader.remaining.take request.width))
          (reader.advance request.width) := by
  have passed := covered.pass_eq request.capacity request.width
  rw [request.run_eq]
  by_cases short : reader.available < request.width
  · rw [if_pos short] at passed ⊢
    exact bind_of_error passed _
  · rw [if_neg short] at passed ⊢
    by_cases wide : request.capacity < request.width
    · rw [if_pos wide] at passed ⊢
      exact bind_of_error passed _
    · rw [if_neg wide] at passed ⊢
      rw [bind_of_ok passed, covered.answer_eq (Nat.not_lt.mp short)]
      rfl

/-- The cursor of a reader takes the step that the reader takes. -/
theorem step_cursor (covered : reader.Covered) (request : Request) :
    reader.cursor.step request =
      ((reader.step request).1, (reader.step request).2.cursor) := by
  simp only [Cursor.step, step, covered.left_cursor, covered.run_eq_ite request]
  -- reader and cursor make the same two checks, and only a granted request moves either
  by_cases short : reader.available < request.width
  · simp only [if_pos short, place_cursor]
  · by_cases wide : request.capacity < request.width
    · simp only [if_neg short, if_pos wide, place_cursor]
    · simp only [if_neg short, if_neg wide, covered.remaining_cursor,
        cursor_advance (Nat.not_lt.mp short)]

/-- A source that is covered is never asked for more than it has. -/
theorem not_overruns (covered : reader.Covered) (request : Request) :
    ¬ reader.Overruns request := by
  rintro ⟨fits, -, unfilled⟩
  exact absurd (Nat.le_trans fits covered.available_le) (Nat.not_le.mpr unfilled)

/-- A request keeps what the data hold of the claim, and the claim itself. -/
theorem step (covered : reader.Covered) (request : Request) :
    (reader.step request).2.Covered ∧ (reader.step request).2.length = reader.length := by
  have takes := reader.takes_step request
  generalize reader.step request = stepped at takes
  cases takes with
  | refused => exact ⟨covered, rfl⟩
  | overrun overruns => exact absurd overruns (covered.not_overruns request)
  | granted fits narrow filled => exact ⟨covered.advance fits, length_advance fits⟩

/-- A refused request leaves the reader as it was. -/
theorem step_of_error (covered : reader.Covered) {request : Request} {reason : DecodeError}
    (refused : (reader.step request).1 = .error reason) : (reader.step request).2 = reader := by
  have takes := reader.takes_step request
  generalize reader.step request = stepped at takes refused
  cases takes with
  | refused => rfl
  | overrun overruns => exact absurd overruns (covered.not_overruns request)
  | granted => cases refused

/-! ## Sequences of requests -/

theorem behind (covered : reader.Covered) (requests : List Request) :
    (reader.behind requests).Covered ∧ (reader.behind requests).length = reader.length := by
  induction requests generalizing reader with
  | nil => exact ⟨covered, rfl⟩
  | cons request rest ih =>
      obtain ⟨still, same⟩ := covered.step request
      obtain ⟨last, kept⟩ := ih still
      exact ⟨last, kept.trans same⟩

theorem behind_cursor (covered : reader.Covered) (requests : List Request) :
    reader.cursor.behind requests = (reader.behind requests).cursor := by
  induction requests generalizing reader with
  | nil => rfl
  | cons request rest ih =>
      rw [Cursor.behind_cons, behind_cons, covered.step_cursor]
      exact ih (covered.step request).1

theorem serve_cursor (covered : reader.Covered) (requests : List Request) :
    reader.cursor.serve requests = reader.serve requests := by
  induction requests generalizing reader with
  | nil => rfl
  | cons request rest ih =>
      rw [Cursor.serve, serve_cons, covered.step_cursor, ih (covered.step request).1]
      rfl

end Covered

/-- Later requests are served by the reader that the earlier ones leave behind. -/
theorem serve_append (reader : BitReader) (front rest : List Request) :
    reader.serve (front ++ rest) = reader.serve front ++ (reader.behind front).serve rest := by
  induction front generalizing reader with
  | nil => rfl
  | cons request front ih =>
      rw [List.cons_append, serve_cons, serve_cons, ih, behind_cons, List.cons_append]

theorem length_serve (reader : BitReader) (requests : List Request) :
    (reader.serve requests).length = requests.length := by
  induction requests generalizing reader with
  | nil => rfl
  | cons request rest ih => rw [serve_cons, List.length_cons, List.length_cons, ih]

/-- **Readers refine cursors.** A reader of a byte string of which no more is claimed than it
has serves every sequence of requests as a cursor over the bits of the claimed bytes: the
same answers, refusals and positions. Behind every sequence the position is the place of the
cursor, and the position and the bits left add up to the claim, of which neither is more. A
refused request is as if it had not been made: what follows it is served as without it, whatever
the source would lose beyond its end. -/
theorem serve_ofClaim {data : List UInt8} {count : Nat} (held : count ≤ data.length)
    (fits : count < 2 ^ 61) (losses : List Loss) (requests : List Request) :
    (ofClaim data count losses).serve requests =
      (Cursor.ofBytes (data.take count)).serve requests ∧
    ((ofClaim data count losses).behind requests).position =
      ((Cursor.ofBytes (data.take count)).behind requests).place ∧
    ((ofClaim data count losses).behind requests).position ≤ 8 * count ∧
    ((ofClaim data count losses).behind requests).available =
      8 * count - ((ofClaim data count losses).behind requests).position ∧
    ((ofClaim data count losses).behind requests).length = 8 * count ∧
    ∀ request reason,
      (((ofClaim data count losses).behind requests).step request).1 = .error reason → ∀ rest,
        ((ofClaim data count losses).serve (requests ++ request :: rest)).drop
            (requests.length + 1) =
          ((ofClaim data count losses).serve (requests ++ rest)).drop requests.length := by
  have covered := covered_ofClaim held losses
  have start : (ofClaim data count losses).length = 8 * count := by
    show 0 + 8 * count % UInt64.size = 8 * count
    rw [Nat.zero_add]
    exact Nat.mod_eq_of_lt (show 8 * count < 2 ^ 64 by omega)
  obtain ⟨still, kept⟩ := covered.behind requests
  rw [← cursor_ofClaim held fits losses, covered.serve_cursor, covered.behind_cursor]
  have total : ((ofClaim data count losses).behind requests).position +
      ((ofClaim data count losses).behind requests).available = 8 * count := kept.trans start
  refine ⟨rfl, rfl, by omega, by omega, kept.trans start, ?_⟩
  intro request reason refused rest
  -- the refused request answers once and hands on the reader it was given
  rw [serve_append, serve_append, serve_cons, still.step_of_error refused]
  simp [← length_serve (ofClaim data count losses) requests]

theorem serve_ofClaim_claimed :
    (2 ≤ [0xDE, 0xAD, 0xBE].length ∧ 2 < 2 ^ 61) ∧
    (ofClaim [0xDE, 0xAD, 0xBE] 2 []).serve
        [.field 8 3, .field 8 9, .field 16 12, .skip 0xFFFFFFFF, .bit, .bit, .field 64 0] =
      [(.ok (.number 6), 3), (.error (.truncated 9 3 0), 3), (.ok (.number 0xF56), 15),
        (.error (.truncated 0xFFFFFFFF 15 1), 15), (.ok (.bit true), 16),
        (.error (.truncated 1 16 0), 16), (.ok (.number 0), 16)] :=
  ⟨by decide, (serve_ofClaim (by decide) (by decide) [] _).1.trans rfl⟩

end AacConfig.BitReader
