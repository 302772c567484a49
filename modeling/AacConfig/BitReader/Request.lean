import AacConfig.BitReader

/-!
# Sequences of reads

A caller of a reader asks for bits, fields and skips in any order and goes on
after a refusal. `serve` answers a whole sequence, so that statements can be
made about every way of using a reader.
-/

namespace AacConfig.BitReader

/-- A single thing to ask of a reader. -/
inductive Request
  /-- The next bit. -/
  | bit
  /-- The next `count` bits as a number of a type of `capacity` bits. -/
  | field (capacity count : Nat)
  /-- To move over `count` bits. -/
  | skip (count : Nat)
deriving Repr, DecidableEq

/-- What a granted request gives. -/
inductive Answer
  | bit (value : Bool)
  | number (value : Nat)
  | moved
deriving Repr, DecidableEq

namespace Request

/-- The number of bits that a request asks for. -/
def width : Request → Nat
  | bit => 1
  | field _ count => count
  | skip count => count

/-- The number of bits that the taker of the answer has room for. -/
def capacity : Request → Nat
  | bit => 1
  | field capacity _ => capacity
  | skip count => count

/-- Carries a request out. -/
def run : Request → Reading Answer
  | bit => return .bit (← readBit)
  | field capacity count => return .number (← readField capacity count)
  | skip count => do
      BitReader.skip count
      return .moved

end Request

/-- The outcome of a request: an answer or a refusal. -/
abbrev Outcome := Except DecodeError Answer

/-- The outcomes of requests in their order, each with the position behind it. -/
def serve (reader : BitReader) : List Request → List (Outcome × Nat)
  | [] => []
  | request :: rest =>
      match request.run reader with
      | .ok answer next => (.ok answer, next.position) :: next.serve rest
      | .error reason next => (.error reason, next.position) :: next.serve rest

/-- The outcome of a request and the reader behind it. -/
def step (reader : BitReader) (request : Request) : Outcome × BitReader :=
  match request.run reader with
  | .ok answer next => (.ok answer, next)
  | .error reason next => (.error reason, next)

/-- The reader behind requests. -/
def behind (reader : BitReader) (requests : List Request) : BitReader :=
  requests.foldl (fun reached request => (reached.step request).2) reader

theorem serve_cons (reader : BitReader) (request : Request) (rest : List Request) :
    reader.serve (request :: rest) =
      ((reader.step request).1, (reader.step request).2.position) ::
        (reader.step request).2.serve rest := by
  simp only [serve, step]
  cases request.run reader <;> rfl

@[simp] theorem behind_cons (reader : BitReader) (request : Request) (rest : List Request) :
    reader.behind (request :: rest) = (reader.step request).2.behind rest := rfl

end AacConfig.BitReader
