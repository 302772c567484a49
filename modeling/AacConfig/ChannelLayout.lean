/-!
# Channel layouts

The four-bit channel configuration names seven loudspeaker layouts. Zero says
that an element inside the stream describes the layout, and the other values
have no meaning here; they are kept with their number, so that they are never
mistaken for zero.
-/

namespace AacConfig

/-- The loudspeaker layout of a stream. -/
inductive ChannelLayout
  /-- Described by a program config element inside the stream. -/
  | programConfigElement
  | mono
  | stereo
  /-- Front left, right and centre. -/
  | front
  /-- Front left, right and centre, and one at the rear. -/
  | frontAndRear
  /-- Five full-range channels. -/
  | five
  /-- Five full-range channels and one for low frequencies. -/
  | fivePlusOne
  /-- Seven full-range channels and one for low frequencies. -/
  | sevenPlusOne
  /-- A configuration number without a layout. -/
  | unassigned (number : Nat)
deriving Repr, DecidableEq, Inhabited

namespace ChannelLayout

/-- The layout that a channel configuration number stands for. -/
def ofNumber : Nat → ChannelLayout
  | 0 => programConfigElement
  | 1 => mono
  | 2 => stereo
  | 3 => front
  | 4 => frontAndRear
  | 5 => five
  | 6 => fivePlusOne
  | 7 => sevenPlusOne
  | number => unassigned number

/-- The channel configuration number of a layout. -/
def number : ChannelLayout → Nat
  | programConfigElement => 0
  | mono => 1
  | stereo => 2
  | front => 3
  | frontAndRear => 4
  | five => 5
  | fivePlusOne => 6
  | sevenPlusOne => 7
  | unassigned number => number

/-- The number of loudspeaker channels, and zero where the layout does not tell it. -/
def channelCount : ChannelLayout → Nat
  | sevenPlusOne => 8
  | unassigned _ => 0
  | layout => layout.number

/-- The usual short name of a layout. -/
def name : ChannelLayout → String
  | programConfigElement => "PCE"
  | mono => "1.0"
  | stereo => "2.0"
  | front => "3.0"
  | frontAndRear => "4.0"
  | five => "5.0"
  | fivePlusOne => "5.1"
  | sevenPlusOne => "7.1"
  | unassigned number => s!"unsupported ({number})"

/-- A layout made from a number has that number. -/
@[simp] theorem number_ofNumber (raw : Nat) : (ofNumber raw).number = raw := by
  unfold ofNumber
  split <;> rfl

/-- A number has no layout exactly from eight on. -/
theorem ofNumber_eq_unassigned_iff (raw : Nat) : ofNumber raw = unassigned raw ↔ 8 ≤ raw := by
  match raw with
  | 0 | 1 | 2 | 3 | 4 | 5 | 6 | 7 => simp [ofNumber]
  | _ + 8 => simp [ofNumber]

end ChannelLayout

end AacConfig
