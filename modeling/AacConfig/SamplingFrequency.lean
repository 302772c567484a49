import AacConfig.BitReader

/-!
# Sampling frequencies

A sampling frequency is coded by a four-bit index. Thirteen indices stand for
the usual frequencies, the index 15 announces a frequency of 24 bits, and the
two between them are reserved.
-/

namespace AacConfig

/-- A sampling frequency together with the index that signalled it. A value of
zero in both parts stands for a frequency that was never signalled. -/
structure SamplingFrequency where
  /-- The four-bit index. -/
  index : Nat := 0
  /-- The frequency in samples per second. -/
  hertz : Nat := 0
deriving Repr, DecidableEq, Inhabited

namespace SamplingFrequency

/-- The frequencies of the indices from 0 to 12. -/
def table : List Nat :=
  [96000, 88200, 64000, 48000, 44100, 32000, 24000, 22050, 16000, 12000, 11025, 8000, 7350]

/-- The index that announces a frequency written out in 24 bits. -/
def explicitIndex : Nat := 15

/-- Whether the frequency was written out. -/
def isExplicit (frequency : SamplingFrequency) : Bool :=
  frequency.index == explicitIndex

/-- A frequency that can be signalled: by an index with its own frequency, or written out in
24 bits. -/
def IsSignalled (frequency : SamplingFrequency) : Prop :=
  table[frequency.index]? = some frequency.hertz ∨
    frequency.index = explicitIndex ∧ frequency.hertz < 0x1000000

/-- The code of a frequency. -/
def bits (frequency : SamplingFrequency) : List Bool :=
  Bits.ofNat 4 frequency.index ++
    if frequency.index = explicitIndex then Bits.ofNat 24 frequency.hertz else []

/-- Reads an index and, if it announces one, the frequency behind it. -/
def read : Reading SamplingFrequency := do
  let index ← BitReader.readField 8 4
  if index = explicitIndex then
    return { index, hertz := ← BitReader.readField 32 24 }
  else
    match table[index]? with
    | some hertz => return { index, hertz }
    | none => throw (.reservedFrequencyIndex index)

end SamplingFrequency

end AacConfig
