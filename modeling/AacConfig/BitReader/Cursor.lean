import AacConfig.BitReader.Request

/-!
# Cursors over lists of bits

The plainest way to serve requests: a list of bits and a place in it. A request
for more bits than are left is refused with their number, one that is wider
than the type of its answer as if none were left, and a refusal moves nothing.
Every other request takes the bits at the place, and the place moves behind
them.
-/

namespace AacConfig.BitReader

/-- What some bits answer to a request for them. -/
def Request.answer : Request → List Bool → Answer
  | bit, bits => .bit (bits.headD false)
  | field _ _, bits => .number (Bits.toNat bits)
  | skip _, _ => .moved

/-- A place in a list of bits. -/
structure Cursor where
  bits : List Bool
  place : Nat
deriving Repr, DecidableEq

namespace Cursor

/-- The start of a byte string. -/
def ofBytes (data : List UInt8) : Cursor where
  bits := Bits.ofBytes data
  place := 0

/-- The bits from the place on. -/
def remaining (cursor : Cursor) : List Bool :=
  cursor.bits.drop cursor.place

/-- The number of bits from the place on. -/
def left (cursor : Cursor) : Nat :=
  cursor.bits.length - cursor.place

/-- The cursor moved by `count` bits. -/
def advance (cursor : Cursor) (count : Nat) : Cursor :=
  { cursor with place := cursor.place + count }

/-- The outcome of a request and the cursor behind it. -/
def step (cursor : Cursor) (request : Request) : Outcome × Cursor :=
  if cursor.left < request.width then
    (.error (.truncated request.width cursor.place cursor.left), cursor)
  else if request.capacity < request.width then
    (.error (.truncated request.width cursor.place 0), cursor)
  else
    (.ok (request.answer (cursor.remaining.take request.width)), cursor.advance request.width)

/-- The outcomes of requests in their order, each with the place behind it. -/
def serve (cursor : Cursor) : List Request → List (Outcome × Nat)
  | [] => []
  | request :: rest =>
      ((cursor.step request).1, (cursor.step request).2.place) ::
        (cursor.step request).2.serve rest

/-- The cursor behind requests. -/
def behind (cursor : Cursor) (requests : List Request) : Cursor :=
  requests.foldl (fun reached request => (reached.step request).2) cursor

@[simp] theorem behind_cons (cursor : Cursor) (request : Request) (rest : List Request) :
    cursor.behind (request :: rest) = (cursor.step request).2.behind rest := rfl

end Cursor

end AacConfig.BitReader
