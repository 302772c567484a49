import AacConfig.Stream
import Mathlib.Algebra.GroupWithZero.Nat

/-!
# Plans

The bits in front of a production decide which fields it reads and whether it
is refused behind the last of them. A plan says both: the widths of the fields
in their order, and the reason of the refusal. `flagPlan` is the plan of the
flags of a core coder of any type, and `syncPlan` that of extensions behind a
core coder. Bits that are not there count as unset; the fields that would hold
them are then in the plan, and do not fit.
-/

namespace AacConfig.Stream

open Production

/-- The widths of the fields that are read, and why the production is refused behind the last of
them, if it is. -/
structure Plan where
  widths : List Nat
  ending : Option DecodeError
deriving Repr, DecidableEq

namespace Plan

/-- Fields behind which nothing is refused. -/
def fields (widths : List Nat) : Plan where
  widths
  ending := none

/-- The number of bits of all fields. -/
def width (plan : Plan) : Nat :=
  plan.widths.sum

/-- One plan and another behind it, unless the first ends with a refusal. -/
def before (plan rest : Plan) : Plan :=
  match plan.ending with
  | none => { widths := plan.widths ++ rest.widths, ending := rest.ending }
  | some _ => plan

end Plan

/-! ## The flags of a core coder -/

/-- The flags that every core coder has. The second one announces the delay behind it. -/
def leadingPlan (bits : List Bool) : Plan :=
  .fields (if bits.getD 1 false then [1, 1, 14, 1] else [1, 1, 1])

/-- The core coders in layers, whose layer number stands behind the leading flags. -/
def IsLayered (code : ObjectType) : Prop :=
  code = ObjectType.aacScalable ∨ code = ObjectType.resilientScalable

/-- The core coders whose data may be protected in three ways, each told by a flag. -/
def IsResilient (code : ObjectType) : Prop :=
  code = ObjectType.resilientLowComplexity ∨ code = ObjectType.resilientScalable ∨
    code = ObjectType.resilientLowDelay

instance (code : ObjectType) : Decidable (IsLayered code) :=
  inferInstanceAs (Decidable (_ ∨ _))

instance (code : ObjectType) : Decidable (IsResilient code) :=
  inferInstanceAs (Decidable (_ ∨ _ ∨ _))

/-- What a core coder of a given type has behind these flags, of which the last one tells whether
the core coder is extended. The last bit of an extended one announces a payload. -/
def closingPlan (code : ObjectType) (extended : Bool) (bits : List Bool) : Plan :=
  let layer := if IsLayered code then [3] else []
  if extended then
    let skipped := layer ++ (if code = ObjectType.resilientBitSliced then [16] else []) ++
      (if IsResilient code then [3] else [])
    { widths := skipped ++ [1]
      ending :=
        if bits.getD skipped.sum false then some (.unsupported .extensionFlagPayload) else none }
  else
    .fields layer

/-- The flags of a core coder whose header filled in the given record. A layout that is described
inside the stream ends them behind the leading ones. -/
def flagPlan (config : DecoderConfig) (bits : List Bool) : Plan :=
  let leading := leadingPlan bits
  leading.before
    (if config.layout = .programConfigElement then
      { widths := [], ending := some (.unsupported .programConfigElement) }
    else
      closingPlan config.objectType (bits.getD (leading.width - 1) false)
        (bits.drop leading.width))

/-! ## Extensions behind a core coder -/

/-- An object type, with six more bits behind the escape. -/
def codePlan (bits : List Bool) : Plan :=
  .fields (if Bits.toNat (bits.take 5) = ObjectType.escape then [5, 6] else [5])

/-- A sampling frequency, which is written out behind the index that announces this. Two indices
are refused. -/
def frequencyPlan (bits : List Bool) : Plan :=
  let index := Bits.toNat (bits.take 4)
  if index = 13 ∨ index = 14 then
    { widths := [4], ending := some (.reservedFrequencyIndex index) }
  else
    .fields (if index = SamplingFrequency.explicitIndex then [4, 24] else [4])

/-- The flag of spectral band replication, and the frequency behind it if it is set. -/
def sbrPlan (bits : List Bool) : Plan :=
  (Plan.fields [1]).before (if bits.headD false then frequencyPlan bits.tail else .fields [])

/-- The word of parametric stereo and its flag, with `left` bits left for them. -/
def psPlan (left : Nat) (bits : List Bool) : Plan :=
  .fields
    (if left < psExtensionWidth then []
    else if Bits.toNat (bits.take 11) = psSyncWord then [11, 1]
    else [11])

/-- The fields of extensions of a given type. -/
def extensionPlan (code : ObjectType) (left : Nat) (bits : List Bool) : Plan :=
  let replication := sbrPlan bits
  if code = ObjectType.spectralBandReplication then
    replication.before
      (if bits.headD false then psPlan (left - replication.width) (bits.drop replication.width)
      else .fields [])
  else if code = ObjectType.resilientBitSliced then
    replication.before (.fields [4])
  else
    .fields []

/-- Extensions behind a core coder with `left` bits left for them: a word and, if it is the one
that starts extensions, their type and its fields. The types that have fields are among those with
a short code. -/
def syncPlan (left : Nat) (bits : List Bool) : Plan :=
  (Plan.fields [11]).before
    (if Bits.toNat (bits.take 11) = sbrSyncWord then
      (codePlan (bits.drop 11)).before
        (extensionPlan (Bits.toNat ((bits.drop 11).take 5)) (left - 16) (bits.drop 16))
    else
      .fields [])

end AacConfig.Stream
