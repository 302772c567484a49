/-!
# Bits of a byte string

The fields of a decoder configuration are packed without regard to byte
boundaries, each with its most significant bit first. This module unfolds a
byte string into the list of its bits and passes between numbers and their
fixed-width codes. A byte string of `n` bytes has `8 * n` bits
(`length_ofBytes`).
-/

namespace AacConfig.Bits

/-- The eight bits of a byte, most significant first. -/
def ofByte (byte : UInt8) : List Bool :=
  (List.range 8).map fun place => byte.toNat.testBit (7 - place)

/-- The bits of a byte string, byte after byte. -/
def ofBytes (data : List UInt8) : List Bool :=
  data.flatMap ofByte

/-- The low `width` binary digits of a number, most significant first. -/
def ofNat : (width : Nat) → (value : Nat) → List Bool
  | 0, _ => []
  | width + 1, value => value.testBit width :: ofNat width value

/-- The number whose binary digits, most significant first, are the given bits. -/
def toNat (bits : List Bool) : Nat :=
  bits.foldl (fun value bit => 2 * value + bit.toNat) 0

/-! ## Lengths -/

@[simp] theorem length_ofByte (byte : UInt8) : (ofByte byte).length = 8 := by
  simp [ofByte]

@[simp] theorem ofBytes_nil : ofBytes [] = [] := rfl

@[simp] theorem ofBytes_cons (byte : UInt8) (data : List UInt8) :
    ofBytes (byte :: data) = ofByte byte ++ ofBytes data := rfl

@[simp] theorem ofBytes_append (front back : List UInt8) :
    ofBytes (front ++ back) = ofBytes front ++ ofBytes back := by
  simp [ofBytes]

@[simp] theorem length_ofBytes (data : List UInt8) :
    (ofBytes data).length = 8 * data.length := by
  induction data with
  | nil => rfl
  | cons byte rest ih => simp [ih]; omega

@[simp] theorem length_ofNat (width value : Nat) : (ofNat width value).length = width := by
  induction width with
  | zero => rfl
  | succ width ih => simp [ofNat, ih]

end AacConfig.Bits
