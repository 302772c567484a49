import AacConfig.Stream

/-!
# What the log tells of a configuration

The events of a decoding, described from the record that it leaves behind and
without a reader. Every field that was read is told once, in the order in which
the fields are read, and the same kind of event stands for several of them: an
object type may be that of the header, of the core coder or of an extension.
The relation `Told events config` says that the events are those of a
configuration of which `config` is the record.
-/

namespace AacConfig

/-- The severity and the wording of every record that a verbosity lets through. -/
def Log.records (verbosity : Verbosity) (events : List Event) : List (Severity × String) :=
  (visible verbosity events).map fun event => (event.severity, event.message)

namespace Stream

open Log

/-- The events of a header that names a given object type. -/
def headerEvents (named : ObjectType) (config : DecoderConfig) : List Event :=
  [.objectType named, .frequency config.frequency,
    .channels config.layout.number config.channelCount]

/-- The events of extensions in front of the core coder. -/
def announcementEvents (config : DecoderConfig) : List Event :=
  [.frequency config.extension.frequency, .objectType config.objectType,
    .explicitExtension config.extension.sbrPresent config.extension.psPresent config.objectType]

/-- The event of the flags of the core coder. -/
def flagsEvent (extended : Bool) (config : DecoderConfig) : Event :=
  .coreFlags config.frameLengthFlag config.dependsOnCoreCoder config.coreCoderDelay extended

/-- The events of spectral band replication, of which there is one if it is used. -/
def replicationEvents (extension : Extension) : List Event :=
  if extension.sbrPresent then [.frequency extension.frequency] else []

/-- The events of extensions behind the core coder. -/
def extensionEvents (extension : Extension) : List Event :=
  .objectType extension.objectType :: replicationEvents extension ++
    [.syncExtension extension.objectType extension.sbrPresent extension.psPresent]

/-- The events behind the flags of a core coder without extensions in front, and the extensions
that they tell. -/
inductive ToldBehind : List Event → Extension → Prop
  /-- Nothing stands behind the flags. -/
  | nothing : ToldBehind [] {}
  /-- The rest is left undecoded. -/
  | undecoded (position : Nat) (feature : Unsupported) :
      ToldBehind [.tailLeft position feature] {}
  /-- A word that does not start extensions. -/
  | foreign {word : Nat} (other : word ≠ Production.sbrSyncWord) :
      ToldBehind [.foreignSyncWord word] {}
  /-- Extensions, which have a frequency only if replication is used. -/
  | extensions {extension : Extension}
      (unused : extension.sbrPresent = false → extension.frequency = {}) :
      ToldBehind (extensionEvents extension) extension

/-- The events of a configuration and its record. -/
inductive Told : List Event → DecoderConfig → Prop
  /-- The core coder is named by the header, and extensions may stand behind it. -/
  | plain {config : DecoderConfig} {behind : List Event} (extended : Bool)
      (core : IsCore config.objectType)
      (layout : config.layout = .ofNumber config.layout.number)
      (ending : ToldBehind behind config.extension) :
      Told (headerEvents config.objectType config ++ flagsEvent extended config :: behind) config
  /-- The header names an extension. Its events follow, and behind the flags there is nothing, or
  a rest that is left undecoded. -/
  | explicit {config : DecoderConfig} {named : ObjectType} {behind : List Event}
      (extended : Bool)
      (announces : named = ObjectType.spectralBandReplication ∨
        named = ObjectType.parametricStereo)
      (core : IsCore config.objectType)
      (layout : config.layout = .ofNumber config.layout.number)
      (extension : config.extension = announced named config.extension.frequency)
      (ending : behind = [] ∨
        ∃ (position : Nat) (feature : Unsupported), behind = [.tailLeft position feature]) :
      Told (headerEvents named config ++ announcementEvents config ++
        flagsEvent extended config :: behind) config

end Stream

end AacConfig
