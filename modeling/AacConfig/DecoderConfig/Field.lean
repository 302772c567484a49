import AacConfig.DecoderConfig

/-!
# Fields of a record

The thirteen fields of a record, those of its extensions taken singly, so that
a statement can speak of every field of a record or of all but a few
(`DecoderConfig.get`, `DecoderConfig.put`). Two records with the same in every
field are the same (`DecoderConfig.eq_of_get_eq`).
-/

namespace AacConfig

namespace DecoderConfig

/-- A field of a record. -/
inductive Field
  | objectType
  | frequencyIndex
  | frequencyHertz
  | layout
  | channelCount
  | frameLengthFlag
  | dependsOnCoreCoder
  | coreCoderDelay
  | sbrPresent
  | psPresent
  | extensionObjectType
  | extensionFrequencyIndex
  | extensionFrequencyHertz
deriving Repr, DecidableEq

namespace Field

/-- What a field holds. -/
def Content : Field → Type
  | layout => ChannelLayout
  | frameLengthFlag | dependsOnCoreCoder | sbrPresent | psPresent => Bool
  | _ => Nat

/-- The fields that a header fills in. -/
def ofHeader : List Field :=
  [objectType, frequencyIndex, frequencyHertz, layout, channelCount]

/-- The fields that the flags of a core coder fill in. -/
def ofFlags : List Field :=
  [frameLengthFlag, dependsOnCoreCoder, coreCoderDelay]

/-- The fields on the extensions. -/
def ofExtension : List Field :=
  [sbrPresent, psPresent, extensionObjectType, extensionFrequencyIndex, extensionFrequencyHertz]

end Field

/-- A field of a record. -/
def get (config : DecoderConfig) : (field : Field) → field.Content
  | .objectType => config.objectType
  | .frequencyIndex => config.frequency.index
  | .frequencyHertz => config.frequency.hertz
  | .layout => config.layout
  | .channelCount => config.channelCount
  | .frameLengthFlag => config.frameLengthFlag
  | .dependsOnCoreCoder => config.dependsOnCoreCoder
  | .coreCoderDelay => config.coreCoderDelay
  | .sbrPresent => config.extension.sbrPresent
  | .psPresent => config.extension.psPresent
  | .extensionObjectType => config.extension.objectType
  | .extensionFrequencyIndex => config.extension.frequency.index
  | .extensionFrequencyHertz => config.extension.frequency.hertz

/-- The record with one field filled in. -/
def put (config : DecoderConfig) : (field : Field) → field.Content → DecoderConfig
  | .objectType, code => { config with objectType := code }
  | .frequencyIndex, index => { config with frequency := { config.frequency with index } }
  | .frequencyHertz, hertz => { config with frequency := { config.frequency with hertz } }
  | .layout, layout => { config with layout }
  | .channelCount, channelCount => { config with channelCount }
  | .frameLengthFlag, frameLengthFlag => { config with frameLengthFlag }
  | .dependsOnCoreCoder, dependsOnCoreCoder => { config with dependsOnCoreCoder }
  | .coreCoderDelay, coreCoderDelay => { config with coreCoderDelay }
  | .sbrPresent, sbrPresent => { config with extension := { config.extension with sbrPresent } }
  | .psPresent, psPresent => { config with extension := { config.extension with psPresent } }
  | .extensionObjectType, code =>
      { config with extension := { config.extension with objectType := code } }
  | .extensionFrequencyIndex, index =>
      { config with
        extension.frequency := { config.extension.frequency with index } }
  | .extensionFrequencyHertz, hertz =>
      { config with
        extension.frequency := { config.extension.frequency with hertz } }

theorem get_put_of_ne (config : DecoderConfig) {field other : Field} (value : field.Content)
    (apart : other ≠ field) : (config.put field value).get other = config.get other := by
  cases field <;> cases other <;> trivial

/-- The fields are all that there is to a record. -/
theorem eq_of_get_eq {first second : DecoderConfig}
    (same : ∀ field, first.get field = second.get field) : first = second := by
  obtain ⟨objectType, ⟨index, hertz⟩, layout, count, short, depends, delay,
    ⟨sbr, ps, code, ⟨doubledIndex, doubledHertz⟩⟩⟩ := first
  obtain rfl := same .objectType
  obtain rfl := same .frequencyIndex
  obtain rfl := same .frequencyHertz
  obtain rfl := same .layout
  obtain rfl := same .channelCount
  obtain rfl := same .frameLengthFlag
  obtain rfl := same .dependsOnCoreCoder
  obtain rfl := same .coreCoderDelay
  obtain rfl := same .sbrPresent
  obtain rfl := same .psPresent
  obtain rfl := same .extensionObjectType
  obtain rfl := same .extensionFrequencyIndex
  obtain rfl := same .extensionFrequencyHertz
  rfl

end DecoderConfig

end AacConfig
