import AacConfig.Proofs.Footprint

/-!
# Features that are forgiven

Once the core coder is known to be a decoded one, a feature that is not decoded
is no failure any more: the run ends with success and one more event. Here the
same configuration is read without that forgiveness (`strict`), and `Forgives`
says all that the two runs can differ in. What footprints tell about the strict
run then holds of the forgiving one.
-/

namespace AacConfig

namespace Production

open Log

variable {α : Type} {state stop : DecodeState}

/-! ## Forgiving productions -/

/-- Both productions come to the same, except that the first may end with a record of the fact
where the second is refused for a feature that is not decoded. -/
def Forgives (forgiving strict : Production Unit) : Prop :=
  ∀ state, forgiving state = strict state ∨
    ∃ feature reached, strict state = .error (.unsupported feature) reached ∧
      forgiving state = .ok () (reached.log (.tailLeft reached.reader.position feature))

namespace Forgives

theorem refl (production : Production Unit) : Forgives production production :=
  fun _ => .inl rfl

theorem absorbing (production : Production Unit) : Forgives (absorbing production) production := by
  intro state
  unfold Production.absorbing
  split
  · rename_i feature reached refused
    exact .inr ⟨feature, reached, refused, rfl⟩
  · exact .inl rfl

theorem bind (first : Production α) {forgiving strict : α → Production Unit}
    (rest : ∀ value, Forgives (forgiving value) (strict value)) :
    Forgives (first >>= forgiving) (first >>= strict) := by
  intro state
  cases found : first state with
  | error reason middle =>
      rw [bind_of_error found, bind_of_error found]
      exact .inl rfl
  | ok value middle =>
      rw [bind_of_ok found, bind_of_ok found]
      exact rest value middle

theorem ite {condition : Prop} [Decidable condition] {yes no strictYes strictNo : Production Unit}
    (first : Forgives yes strictYes) (second : Forgives no strictNo) :
    Forgives (if condition then yes else no) (if condition then strictYes else strictNo) := by
  split
  · exact first
  · exact second

section Outcomes

variable {forgiving strict : Production Unit}

/-- Every other refusal is the same. -/
theorem refused_iff (forgives : Forgives forgiving strict) {reason : DecodeError}
    (other : reason.isUnsupported = false) :
    forgiving state = .error reason stop ↔ strict state = .error reason stop := by
  rcases forgives state with same | ⟨feature, reached, refused, forgiven⟩
  · rw [same]
  · rw [refused, forgiven]
    constructor
    · nofun
    · intro found
      cases found
      cases other

theorem config_ended (forgives : Forgives forgiving strict) (state : DecodeState) :
    (ended (forgiving state)).config = (ended (strict state)).config := by
  rcases forgives state with same | ⟨feature, reached, refused, forgiven⟩
  · rw [same]
  · rw [refused, forgiven]
    rfl

theorem prefix_events (forgives : Forgives forgiving strict) (state : DecodeState) :
    (ended (strict state)).events <+: (ended (forgiving state)).events := by
  rcases forgives state with same | ⟨feature, reached, refused, forgiven⟩
  · exact ⟨[], by rw [same, List.append_nil]⟩
  · rw [refused, forgiven]
    exact List.prefix_append _ _

end Outcomes

end Forgives

/-! ## A configuration without forgiveness -/

/-- What follows a header, with every feature that is not decoded refused. -/
def behindHeader : Production Unit := do
  frontExtension
  ifCore body

/-- A whole configuration, with every feature that is not decoded refused. -/
def strict : Production Unit := do
  update fun _ => {}
  header
  behindHeader

theorem strict_eq : strict = preamble >>= fun _ => ifCore body := by
  rw [preamble, bind_assoc]
  refine bind_congr fun _ => ?_
  rw [bind_assoc]
  rfl

theorem Forgives.whole : Forgives whole strict := by
  -- only the body of a decoded core coder is forgiven; a core coder of another kind is refused
  -- by both
  have coder : Forgives coreCoder (ifCore body) :=
    bind config fun _ => ite (absorbing body) (refl _)
  rw [strict_eq]
  exact bind preamble fun _ => coder

theorem strict_start (data : List UInt8) :
    strict (.start {} data) = (header >>= fun _ => behindHeader) (.start {} data) := rfl

/-! ## Footprints behind the header -/

/-- Extensions in front of the core coder leave only its flags to be read. -/
theorem ifCore_body_of_announced
    (announced : state.config.extension.objectType = ObjectType.spectralBandReplication) :
    ifCore body state = ifCore coreFlags state := by
  by_cases core : Stream.IsCore state.config.objectType
  · rw [ifCore_of_isCore core, ifCore_of_isCore core, body]
    cases found : coreFlags state with
    | error reason middle => rw [bind_of_error found]
    | ok _ middle =>
        have touched := Fills.coreFlags.touches state
        rw [found] at touched
        have kept : middle.config.extension.objectType = state.config.extension.objectType :=
          touched.others .extensionObjectType (by decide)
        rw [bind_of_ok found, trailing_of_announced (kept.trans announced)]
  · rw [ifCore_of_not_isCore core, ifCore_of_not_isCore core]

theorem behindHeader_of_announces (announces : Stream.Announces state.config.objectType) :
    behindHeader state = (explicitExtension >>= fun _ => ifCore coreFlags) state := by
  have front := frontExtension_of_announces announces
  unfold behindHeader
  cases found : explicitExtension state with
  | error reason middle => rw [bind_of_error (front.trans found), bind_of_error found]
  | ok _ middle =>
      rw [bind_of_ok (front.trans found), bind_of_ok found]
      obtain ⟨announcement, -, -, rfl⟩ := explicitExtension_eq_ok_iff.mp found
      exact ifCore_body_of_announced rfl

theorem behindHeader_of_not_announces (other : ¬ Stream.Announces state.config.objectType) :
    behindHeader state = ifCore body state :=
  bind_of_ok (frontExtension_of_not_announces other) _

namespace Fills

open DecoderConfig (Field)

theorem ifCore {fields : List Field} {inner : Production Unit} (fills : Fills fields inner) :
    Fills fields (ifCore inner) :=
  reads .config config fun _ => ite fills ((throw rfl).weaken nofun)

/-- Behind a header that announces extensions. -/
theorem announced :
    Fills (.objectType :: (Field.ofExtension ++ Field.ofFlags))
      (Production.explicitExtension >>= fun _ => Production.ifCore Production.coreFlags) :=
  bind .explicitExtension explicitExtension (fun _ => ifCore coreFlags) (by decide)

theorem behindHeader :
    Fills (.objectType :: (Field.ofExtension ++ Field.ofFlags)) behindHeader where
  touches := by
    intro state
    by_cases announces : Stream.Announces state.config.objectType
    · rw [behindHeader_of_announces announces]
      exact announced.touches state
    · rw [behindHeader_of_not_announces announces]
      exact ((ifCore body).touches state).weaken (by decide)
  underway := by
    intro state grown stop needed position available grows refused
    -- more bits behind do not change the record, so both runs take the same branch
    by_cases announces : Stream.Announces state.config.objectType
    · have still : Stream.Announces grown.config.objectType := grows.config ▸ announces
      rw [behindHeader_of_announces announces] at refused
      rw [behindHeader_of_announces still]
      exact announced.underway grows refused
    · have still : ¬ Stream.Announces grown.config.objectType := grows.config ▸ announces
      rw [behindHeader_of_not_announces announces] at refused
      rw [behindHeader_of_not_announces still]
      exact (ifCore body).underway grows refused

end Fills

/-- The object type of a header is kept, unless the flags of the extensions tell what it was. -/
theorem objectType_behindHeader (state : DecodeState) :
    (ended (behindHeader state)).config.objectType = state.config.objectType ∨
      Stream.Announces state.config.objectType ∧
        (ended (behindHeader state)).config.extension.sbrPresent = true ∧
        (ended (behindHeader state)).config.extension.psPresent =
          (state.config.objectType == ObjectType.parametricStereo) := by
  by_cases announces : Stream.Announces state.config.objectType
  · rw [behindHeader_of_announces announces]
    -- both flags are set before anything behind the header is read
    let front := state.extend fun extension =>
      { extension with
        objectType := ObjectType.spectralBandReplication
        sbrPresent := true
        psPresent := state.config.objectType == ObjectType.parametricStereo }
    have touched := (Fills.explicitFields.touches front).trans
      (Fills.touched_bind (fun _ => .ifCore .coreFlags) front)
    have sbr := touched.others .sbrPresent (by decide)
    have ps := touched.others .psPresent (by decide)
    exact .inr ⟨announces, sbr, ps⟩
  · rw [behindHeader_of_not_announces announces]
    exact .inl (((Fills.ifCore .body).touches state).others .objectType (by decide))

end Production

namespace DecoderConfig

/-! ## Runs over any record -/

variable {data : List UInt8}

/-- The state that is reached, whatever was decoded over. -/
theorem state_overwrite (prior : DecoderConfig) (data : List UInt8) :
    (overwrite prior data).state = Production.ended (Production.whole (.start {} data)) := by
  show (Production.whole.attempt (.start {} data)).state = _
  unfold Production.attempt
  cases Production.whole (.start {} data) with
  | ok _ reached => rfl
  | error reason reached => rfl

theorem refusal_overwrite_iff {prior : DecoderConfig} {reason : DecodeError} :
    (overwrite prior data).refusal = some reason ↔
      Production.whole (.start {} data) = .error reason (overwrite prior data).state := by
  rw [state_overwrite]
  show (Production.whole.attempt (.start {} data)).refusal = some reason ↔ _
  unfold Production.attempt
  cases Production.whole (.start {} data) with
  | ok _ reached => exact ⟨nofun, nofun⟩
  | error found reached => simp [Production.ended]

end DecoderConfig

end AacConfig
