import AacConfig.BitReader

/-!
# Audio object types

An audio object type says which coding tool a stream uses. It is coded in five
bits; the value 31 is no type but announces six more bits, which count from 32
on. A type below 31 and a type from 32 to 95 thus have exactly one code each,
and 31 has none.
-/

namespace AacConfig

/-- The number of an audio object type. -/
abbrev ObjectType := Nat

namespace ObjectType

/-- AAC with backward prediction. -/
@[match_pattern] abbrev aacMain : ObjectType := 1
/-- AAC of low complexity, the common case. -/
@[match_pattern] abbrev aacLowComplexity : ObjectType := 2
/-- Spectral band replication, which rebuilds the upper half of the spectrum. -/
@[match_pattern] abbrev spectralBandReplication : ObjectType := 5
/-- AAC in several layers. -/
@[match_pattern] abbrev aacScalable : ObjectType := 6
/-- Error resilient AAC of low complexity. -/
@[match_pattern] abbrev resilientLowComplexity : ObjectType := 17
/-- Error resilient AAC in several layers. -/
@[match_pattern] abbrev resilientScalable : ObjectType := 20
/-- Error resilient bit sliced arithmetic coding. -/
@[match_pattern] abbrev resilientBitSliced : ObjectType := 22
/-- Error resilient AAC of low delay. -/
@[match_pattern] abbrev resilientLowDelay : ObjectType := 23
/-- Parametric stereo, which rebuilds two channels from one. -/
@[match_pattern] abbrev parametricStereo : ObjectType := 29
/-- The five-bit value that announces six more bits. -/
@[match_pattern] abbrev escape : ObjectType := 31

/-- The usual name of a type, if it has been given a meaning. -/
def name? : ObjectType → Option String
  | 1 => some "AAC Main"
  | 2 => some "AAC LC"
  | 3 => some "AAC SSR"
  | 4 => some "AAC LTP"
  | 5 => some "SBR"
  | 6 => some "AAC Scalable"
  | 7 => some "TwinVQ"
  | 8 => some "CELP"
  | 9 => some "HVXC"
  | 12 => some "TTSI"
  | 13 => some "Main Synthetic"
  | 14 => some "Wavetable Synthesis"
  | 15 => some "General MIDI"
  | 16 => some "Algorithmic Synthesis"
  | 17 => some "ER AAC LC"
  | 19 => some "ER AAC LTP"
  | 20 => some "ER AAC Scalable"
  | 21 => some "ER TwinVQ"
  | 22 => some "ER BSAC"
  | 23 => some "ER AAC LD"
  | 24 => some "ER CELP"
  | 25 => some "ER HVXC"
  | 26 => some "ER HILN"
  | 27 => some "ER Parametric"
  | 28 => some "SSC"
  | 29 => some "PS"
  | 30 => some "MPEG Surround"
  | 32 => some "MPEG Layer 1"
  | 33 => some "MPEG Layer 2"
  | 34 => some "MPEG Layer 3"
  | 35 => some "DST"
  | 36 => some "ALS"
  | 37 => some "SLS"
  | 38 => some "SLS Non-Core"
  | 39 => some "ER AAC ELD"
  | 40 => some "SMR Simple"
  | 41 => some "SMR Main"
  | _ => none

/-- A type that has a code: five bits reach to 30, and the six behind the escape from 32 to 95. -/
def IsCodable (code : ObjectType) : Prop :=
  code < escape ∨ 32 ≤ code ∧ code ≤ 95

/-- The code of a type. -/
def bits (code : ObjectType) : List Bool :=
  if code < escape then Bits.ofNat 5 code
  else Bits.ofNat 5 escape ++ Bits.ofNat 6 (code - 32)

/-- Reads a type in its short or its escaped code. -/
def read : Reading ObjectType := do
  let code ← BitReader.readField 8 5
  if code = escape then
    return 32 + (← BitReader.readField 8 6)
  else
    return code

end ObjectType

end AacConfig
