import AacConfig.Bits
import Mathlib.Algebra.Group.Nat.Defs

/-!
# Numbers and their codes

A number that fits its width is read back from its code (`toNat_ofNat`), and
every list of bits is the code of its number (`ofNat_toNat`), so a field of a
given width and its value determine each other.
-/

namespace AacConfig.Bits

@[simp] theorem toNat_nil : toNat [] = 0 := rfl

theorem foldl_eq (bits : List Bool) (start : Nat) :
    bits.foldl (fun value bit => 2 * value + bit.toNat) start =
      start * 2 ^ bits.length + toNat bits := by
  induction bits generalizing start with
  | nil => simp
  | cons bit rest ih =>
      simp only [toNat, List.foldl_cons, List.length_cons]
      rw [ih, ih (2 * 0 + bit.toNat), Nat.pow_succ, Nat.add_mul, Nat.mul_zero, Nat.zero_add,
        Nat.mul_comm 2 start, Nat.mul_assoc, Nat.mul_comm 2, Nat.add_assoc]

/-- The first bit weighs as much as the number of bits after it says. -/
theorem toNat_cons (bit : Bool) (rest : List Bool) :
    toNat (bit :: rest) = bit.toNat * 2 ^ rest.length + toNat rest := by
  have unfolded := foldl_eq rest (2 * 0 + bit.toNat)
  simpa [toNat] using unfolded

theorem toNat_append (front back : List Bool) :
    toNat (front ++ back) = toNat front * 2 ^ back.length + toNat back := by
  rw [toNat, List.foldl_append, foldl_eq]
  rfl

/-- A number read from `n` bits is below `2 ^ n`. -/
theorem toNat_lt (bits : List Bool) : toNat bits < 2 ^ bits.length := by
  induction bits with
  | nil => simp
  | cons bit rest ih =>
      rw [toNat_cons, List.length_cons, Nat.pow_succ]
      cases bit <;> simp <;> omega

/-- A number written in a fixed width and read again keeps its low digits. -/
theorem toNat_ofNat_mod (width value : Nat) : toNat (ofNat width value) = value % 2 ^ width := by
  induction width with
  | zero => simp [ofNat, Nat.mod_one]
  | succ width ih =>
      rw [ofNat, toNat_cons, ih, length_ofNat, Nat.mod_pow_succ, Nat.testBit_eq_decide_div_mod_eq]
      rcases Nat.mod_two_eq_zero_or_one (value / 2 ^ width) with even | odd
      · simp [even]
      · simp [odd]; omega

/-- A number that fits its width is read back from its code. -/
theorem toNat_ofNat {width value : Nat} (fits : value < 2 ^ width) :
    toNat (ofNat width value) = value := by
  rw [toNat_ofNat_mod, Nat.mod_eq_of_lt fits]

/-- Digits above the width do not enter the code. -/
theorem ofNat_mul_add {width value : Nat} (fits : value < 2 ^ width) (high : Nat) :
    ofNat width (2 ^ width * high + value) = ofNat width value := by
  suffices general :
      ∀ count ≤ width, ofNat count (2 ^ width * high + value) = ofNat count value from
    general width (Nat.le_refl width)
  intro count bounded
  induction count with
  | zero => rfl
  | succ count ih =>
      have below : count < width := bounded
      rw [ofNat, ofNat, ih (by omega), Nat.testBit_two_pow_mul_add high fits, if_pos below]

/-- Every list of bits is the code of the number it is read as. -/
theorem ofNat_toNat (bits : List Bool) : ofNat bits.length (toNat bits) = bits := by
  induction bits with
  | nil => rfl
  | cons bit rest ih =>
      have small := toNat_lt rest
      rw [List.length_cons, ofNat, toNat_cons, Nat.mul_comm, ofNat_mul_add small, ih,
        Nat.testBit_two_pow_mul_add _ small]
      cases bit <;> simp

end AacConfig.Bits
