import AacConfig.Proofs.Forgiving

/-!
# Partial runs

A byte string that is too short leaves a record that is filled in only in part.
It is a part of what any longer byte string leaves, whatever its result and
whatever records the two were decoded over
(`DecoderConfig.begins_overwrite_append`): every field is as it was at the start
or as the longer run leaves it. The one exception is the object type, which the
header and the extensions in front of the core coder both fill in. What is
logged is the beginning of what the longer run logs.

The header and what follows it have the object type in common and no other
field, so all else is the rule for sequences of disjoint footprints.
-/

namespace AacConfig

namespace DecoderConfig

/-- A record on its way to another one. Every field but the object type is not filled in yet, or
as in the other record. Of the object type the other record may keep no more than the flags that
it announced. -/
structure Begins (short long : DecoderConfig) : Prop where
  fields : ∀ field ≠ Field.objectType,
    short.get field = ({} : DecoderConfig).get field ∨ short.get field = long.get field
  objectType : short.objectType = 0 ∨ short.objectType = long.objectType ∨
    (short.objectType = ObjectType.spectralBandReplication ∨
        short.objectType = ObjectType.parametricStereo) ∧
      long.extension.sbrPresent = true ∧
      long.extension.psPresent = (short.objectType == ObjectType.parametricStereo)

end DecoderConfig

namespace Production

open DecoderConfig (Field Begins)

variable {data : List UInt8} {stop : DecodeState} {needed position available : Nat}

/-- A field that is filled in behind the header is not one of the header, but for the object
type. -/
theorem eq_objectType_of_mem {field : Field}
    (later : field ∈ .objectType :: (Field.ofExtension ++ Field.ofFlags))
    (early : field ∈ Field.ofHeader) : field = .objectType := by
  revert field
  decide

/-- What the end of the header settles for the object type holds of the whole run. -/
theorem objectType_ended (data : List UInt8) {code : ObjectType}
    (settled : code = (ended (header (.start {} data))).config.objectType) :
    code = (ended (strict (.start {} data))).config.objectType ∨
      Stream.Announces code ∧
        (ended (strict (.start {} data))).config.extension.sbrPresent = true ∧
        (ended (strict (.start {} data))).config.extension.psPresent =
          (code == ObjectType.parametricStereo) := by
  rw [strict_start]
  cases found : header (.start {} data) with
  | error reason middle =>
      rw [found] at settled
      rw [bind_of_error found]
      exact .inl settled
  | ok _ middle =>
      rw [found] at settled
      subst settled
      rw [bind_of_ok found]
      exact (objectType_behindHeader middle).imp_left Eq.symm

/-- A run that is too short leaves a part of what a longer run leaves. -/
theorem begins_strict (more : List UInt8)
    (refused : strict (.start {} data) = .error (.truncated needed position available) stop) :
    Begins stop.config (ended (strict (.start {} (data ++ more)))).config ∧
      stop.events <+: (ended (strict (.start {} (data ++ more)))).events := by
  rw [strict_start] at refused
  obtain ⟨events, settled⟩ := Fills.underway_bind .header .header (fun _ => .behindHeader)
    (.start {} data more) refused
  rw [← strict_start] at events settled
  refine ⟨⟨?_, ?_⟩, events⟩
  · intro field other
    -- the first part has left the field alone, or has settled it, or the rest has settled it
    rcases settled field with early | middle | late
    · exact .inl early
    · by_cases later : field ∈ .objectType :: (Field.ofExtension ++ Field.ofFlags)
      · -- the header leaves it alone
        have outside : field ∉ Field.ofHeader := fun own => other (eq_objectType_of_mem later own)
        rw [(Fills.header.touches _).others field outside] at middle
        exact .inl middle
      · rw [strict_start, (Fills.touched_bind (fun _ => Fills.behindHeader) _).others field later]
        exact .inr middle
    · exact .inr late
  · rcases settled .objectType with early | middle | late
    · exact .inl early
    · exact .inr (objectType_ended (data ++ more) middle)
    · exact .inr (.inl late)

end Production

namespace DecoderConfig

/-- A byte string that is too short leaves a part of the record that any longer byte string
leaves, whatever its result, and logs the beginning of what that logs. -/
theorem begins_overwrite_append (prior other : DecoderConfig) (data more : List UInt8)
    {needed position available : Nat}
    (short : (overwrite prior data).refusal = some (.truncated needed position available)) :
    Begins (overwrite prior data).config (overwrite other (data ++ more)).config ∧
      (overwrite prior data).events <+: (overwrite other (data ++ more)).events := by
  have refused := refusal_overwrite_iff.mp short
  rw [Production.Forgives.whole.refused_iff rfl] at refused
  obtain ⟨begins, events⟩ := Production.begins_strict more refused
  have forgiven := Production.Forgives.whole.prefix_events (.start {} (data ++ more))
  have same := Production.Forgives.whole.config_ended (.start {} (data ++ more))
  rw [← same, ← state_overwrite other] at begins
  rw [← state_overwrite other] at forgiven
  exact ⟨begins, events.trans forgiven⟩

/-- Two bytes, which end in front of the extensions that the header announces. -/
theorem begins_overwrite_append_announced :
    (overwrite { coreCoderDelay := 7 } [0xEB, 0x8A]).refusal = some (.truncated 4 13 3) ∧
      Begins (overwrite { coreCoderDelay := 7 } [0xEB, 0x8A]).config
        (overwrite { channelCount := 9 } ([0xEB, 0x8A] ++ [0x08, 0x00])).config ∧
      (overwrite { coreCoderDelay := 7 } [0xEB, 0x8A]).config.objectType =
        ObjectType.parametricStereo ∧
      (overwrite { channelCount := 9 } ([0xEB, 0x8A] ++ [0x08, 0x00])).config.objectType =
        ObjectType.aacLowComplexity :=
  ⟨rfl, (begins_overwrite_append _ _ [0xEB, 0x8A] _ rfl).1, rfl, rfl⟩

end DecoderConfig

end AacConfig
