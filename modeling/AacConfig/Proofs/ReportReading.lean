import AacConfig.Command.Run
import AacConfig.Proofs.Reporting
import AacConfig.Proofs.Wording
import AacConfig.Proofs.YamlReading
import AacConfig.Report.Schema

/-!
# Reading reports back

The document of a report is read back from its text, as none of its texts holds
a line break (`Report.read_renderYaml`), and it tells the report
(`Report.document_inj`): numbers and flags stand for themselves, and the names
of layouts and profiles and the wordings of refusals are each used once. So
whatever text a report is written as, no other report is written as the same
text (`Report.info_yaml_read_back`).
-/

namespace AacConfig

open Log (IsWord spelled)

/-! ## Texts that stay on their lines -/

/-- A text without line breaks. -/
def IsLine (text : String) : Prop :=
  '\n' ∉ text.toList

theorem IsLine.append {front back : String} (first : IsLine front) (second : IsLine back) :
    IsLine (front ++ back) := by
  intro member
  rw [String.toList_append] at member
  rcases List.mem_append.mp member with inFront | inBack
  · exact first inFront
  · exact second inBack

theorem IsLine.of_isWord {text : String} (word : IsWord text) : IsLine text := by
  intro member
  exact absurd (word '\n' member) (by decide)

theorem isLine_repr (number : Nat) : IsLine number.repr :=
  .of_isWord (Log.isWord_repr number)

theorem ObjectType.isLine_name {code : ObjectType} {name : String}
    (named : code.name? = some name) : IsLine name := by
  unfold name? at named
  split at named
  all_goals cases named
  all_goals simp [IsLine]

theorem ChannelLayout.isLine_name (layout : ChannelLayout) : IsLine layout.name := by
  cases layout with
  | unassigned number =>
      have front : IsLine "unsupported (" := by simp [IsLine]
      have back : IsLine ")" := by simp [IsLine]
      exact (front.append (isLine_repr number)).append back
  | _ => simp [IsLine, name]

theorem Profile.isLine_name (profile : Profile) : IsLine profile.name := by
  cases profile
  all_goals simp [IsLine, name]

theorem Unsupported.isLine_message (feature : Unsupported) : IsLine feature.message := by
  unfold IsLine message
  split
  · simp
  · simp
  · rename_i code
    have front : IsLine "audio object type " := by simp [IsLine]
    exact front.append (isLine_repr code)

/-! ## The wording of refusals -/

namespace DecodeError

/-- The fixed texts of a wording, one in front of each value. -/
def texts : DecodeError → List String
  | truncated .. => ["Truncated input: ", " bits needed at bit ", ", only ", " remain"]
  | reservedFrequencyIndex _ => ["Invalid format: sampling_frequency_index ", " is reserved"]
  | unsupported _ => ["Not supported: "]

/-- The values of a wording. A text without a value behind it is followed by the empty one. -/
def values : DecodeError → List String
  | truncated needed position available =>
      [needed.repr, position.repr, available.repr, ""]
  | reservedFrequencyIndex index => [Text.markedHex 1 index, ""]
  | unsupported feature => [feature.message]

theorem toList_message (reason : DecodeError) :
    reason.message.toList = spelled reason.texts reason.values := by
  cases reason with
  | truncated needed position available =>
      show ("Truncated input: " ++ needed.repr ++ " bits needed at bit " ++ position.repr ++
        ", only " ++ available.repr ++ " remain").toList = _
      simp [spelled, texts, values]
  | reservedFrequencyIndex index =>
      show ("Invalid format: sampling_frequency_index " ++ Text.markedHex 1 index ++
        " is reserved").toList = _
      simp [spelled, texts, values]
  | unsupported feature =>
      show ("Not supported: " ++ feature.message).toList = _
      simp [spelled, texts, values]

theorem newline_not_mem_spelled {texts values : List String} (fixed : ∀ text ∈ texts, IsLine text)
    (between : ∀ value ∈ values, IsLine value) : '\n' ∉ spelled texts values := by
  induction texts generalizing values with
  | nil => simp [spelled]
  | cons text texts found =>
      cases values with
      | nil => simp [spelled]
      | cons value values =>
          obtain ⟨first, others⟩ := List.forall_mem_cons.mp fixed
          obtain ⟨firstValue, otherValues⟩ := List.forall_mem_cons.mp between
          intro member
          rcases List.mem_append.mp member with inText | rest
          · exact first inText
          · rcases List.mem_append.mp rest with inValue | behind
            · exact firstValue inValue
            · exact found others otherValues behind

theorem isLine_message (reason : DecodeError) : IsLine reason.message := by
  have fixed : ∀ text ∈ reason.texts, IsLine text := by
    cases reason
    all_goals simp [texts, IsLine]
  have between : ∀ value ∈ reason.values, IsLine value := by
    have empty : IsLine "" := nofun
    cases reason with
    | truncated needed position available => simp [values, isLine_repr, empty]
    | reservedFrequencyIndex index =>
        simp [values, IsLine.of_isWord (Log.isWord_markedHex 1 index), empty]
    | unsupported feature => simp [values, feature.isLine_message]
  rw [IsLine, toList_message]
  exact newline_not_mem_spelled fixed between

/-- The first letter of a wording. -/
def initial : DecodeError → Char
  | truncated .. => 'T'
  | reservedFrequencyIndex _ => 'I'
  | unsupported _ => 'N'

theorem head?_message (reason : DecodeError) :
    reason.message.toList.head? = some reason.initial := by
  rw [toList_message]
  cases reason
  all_goals simp [spelled, texts, values, initial]

theorem startsApart_of_mem_texts (reason : DecodeError) :
    ∀ text ∈ reason.texts.tail, Log.StartsApart text := by
  cases reason
  all_goals simp [texts, Log.StartsApart]

theorem isWord_of_mem_values (reason : DecodeError) :
    ∀ value ∈ reason.values.dropLast, IsWord value := by
  cases reason
  all_goals simp [values]

/-- The values are told by refusals with the same fixed texts. -/
theorem values_eq_of_message_eq {reason other : DecodeError}
    (same : reason.message = other.message) (texts : reason.texts = other.texts) :
    reason.values = other.values := by
  have letters := congrArg String.toList same
  rw [toList_message, toList_message, ← texts] at letters
  have count : ∀ reason : DecodeError, reason.values.length = reason.texts.length := by
    intro reason
    cases reason
    all_goals rfl
  exact Log.values_eq_of_spelled_eq (count reason) (texts ▸ count other)
    reason.startsApart_of_mem_texts reason.isWord_of_mem_values other.isWord_of_mem_values letters

/-- The wording of a refusal tells its reason. -/
theorem message_inj {reason other : DecodeError} (same : reason.message = other.message) :
    reason = other := by
  -- the first letter tells the kind of a refusal; behind it the values stand between fixed texts
  have initials : reason.initial = other.initial := by
    have first := head?_message reason
    rw [same, head?_message] at first
    exact (Option.some.inj first).symm
  cases reason with
  | truncated needed position available =>
      cases other with
      | truncated otherNeeded otherPosition otherAvailable =>
          have told := values_eq_of_message_eq same rfl
          simp only [values, List.cons.injEq, and_true] at told
          obtain ⟨first, second, third⟩ := told
          rw [Log.repr_inj first, Log.repr_inj second, Log.repr_inj third]
      | _ => simp [initial] at initials
  | reservedFrequencyIndex index =>
      cases other with
      | reservedFrequencyIndex otherIndex =>
          have told := values_eq_of_message_eq same rfl
          simp only [values, List.cons.injEq, and_true] at told
          rw [Text.markedHex_inj told]
      | _ => simp [initial] at initials
  | unsupported feature =>
      cases other with
      | unsupported otherFeature =>
          have told := values_eq_of_message_eq same rfl
          simp only [values, List.cons.injEq, and_true] at told
          rw [Log.feature_eq_of_message_eq told]
      | _ => simp [initial] at initials

end DecodeError

/-! ## Names that are used once -/

/-- Layouts with a meaning and those without are told apart by their names. -/
theorem ChannelLayout.eq_ofNumber_or_unassigned (layout : ChannelLayout) :
    (layout = ofNumber layout.number ∧ layout.name.toList.head? ≠ some 'u') ∨
      (layout = unassigned layout.number ∧ layout.name.toList.head? = some 'u') := by
  cases layout with
  | unassigned number =>
      refine .inr ⟨rfl, ?_⟩
      show ("unsupported (" ++ number.repr ++ ")").toList.head? = some 'u'
      simp
  | _ => exact .inl ⟨rfl, by simp [name]⟩

theorem ChannelLayout.eq_of_name_eq {layout other : ChannelLayout}
    (number : layout.number = other.number) (name : layout.name = other.name) :
    layout = other := by
  rcases layout.eq_ofNumber_or_unassigned with ⟨same, named⟩ | ⟨same, named⟩
  · rcases other.eq_ofNumber_or_unassigned with ⟨otherSame, -⟩ | ⟨-, otherNamed⟩
    · rw [same, otherSame, number]
    · rw [name] at named
      exact absurd otherNamed named
  · rcases other.eq_ofNumber_or_unassigned with ⟨-, otherNamed⟩ | ⟨otherSame, -⟩
    · rw [name] at named
      exact absurd named otherNamed
    · rw [same, otherSame, number]

theorem Profile.name_inj {profile other : Profile} (same : profile.name = other.name) :
    profile = other := by
  revert same
  cases profile
  all_goals cases other
  all_goals decide

namespace Report

open Command Yaml
open DecoderConfig (decode overwrite)

variable {report other : Report}

/-! ## Documents of reports -/

theorem isLegible_optionalField {key : String} {value : Option String} (letters : IsKey key)
    (line : ∀ text, value = some text → IsLine text) :
    ∀ entry ∈ optionalField key value, entry.IsLegible := by
  cases value with
  | none => exact nofun
  | some content =>
      intro entry member
      rw [List.mem_singleton.mp member]
      exact ⟨letters, line content rfl⟩

/-- Fields are legible if their keys are words and their texts stay on their lines. -/
theorem isLegible_of_keys {fields : List Field} (keys : ∀ key ∈ fields.map Prod.fst, IsKey key)
    (values : ∀ field ∈ fields, field.2.IsLine) : ∀ field ∈ fields, IsLegible field :=
  fun field member => ⟨keys field.1 (List.mem_map_of_mem member), values field member⟩

theorem isLegible_coreFields (config : DecoderConfig) :
    ∀ field ∈ coreFields config, IsLegible field := by
  have name : '\n' ∉ config.layout.name.toList := config.layout.isLine_name
  apply isLegible_of_keys
  · simp [coreFields, IsKey]
  · simp [coreFields, Scalar.IsLine, name]

theorem isLegible_extensionFields (extension : Extension) :
    ∀ field ∈ extensionFields extension, IsLegible field := by
  apply isLegible_of_keys
  · simp [extensionFields, IsKey]
  · simp [extensionFields, Scalar.IsLine]

theorem isLegible_modeFields (report : Report) :
    ∀ field ∈ report.modeFields, IsLegible field := by
  have name : '\n' ∉ report.profile.name.toList := report.profile.isLine_name
  apply isLegible_of_keys
  · simp [modeFields, IsKey]
  · simp [modeFields, Scalar.IsLine, name]

theorem isLegible_document (report : Report) : ∀ entry ∈ report.document, entry.IsLegible := by
  have refusal : ∀ text, report.refusal.map DecodeError.message = some text → IsLine text := by
    intro text worded
    obtain ⟨reason, -, rfl⟩ := Option.map_eq_some_iff.mp worded
    exact reason.isLine_message
  simp only [document, List.cons_append, List.forall_mem_cons, List.forall_mem_append,
    List.forall_mem_map]
  have key : IsKey "objectType" := by simp [IsKey]
  refine ⟨⟨key, trivial⟩,
    ⟨⟨?_, isLegible_coreFields report.config⟩, ?_, ?_, List.forall_mem_nil _⟩, ?_⟩
  · exact isLegible_optionalField (by simp [IsKey]) fun _ => ObjectType.isLine_name
  · exact ⟨by simp [IsKey], isLegible_extensionFields report.config.extension⟩
  · exact ⟨by simp [IsKey], isLegible_modeFields report⟩
  · exact isLegible_optionalField (by simp [IsKey]) refusal

/-- A report is read back from its text as its document. -/
theorem read_renderYaml (report : Report) : Yaml.read report.renderYaml = some report.document :=
  Yaml.read_render report.isLegible_document

theorem schema_document (report : Report) :
    report.document.flatMap Entry.schema =
      schema report.config.objectType.name?.isSome report.refusal.isSome := by
  obtain ⟨config, profile, packets, refusal⟩ := report
  cases named : config.objectType.name?
  all_goals cases refusal
  all_goals simp [document, named, optionalField, coreFields, extensionFields, modeFields,
    Entry.schema, Scalar.kind, schema]

theorem optionalField_inj {key : String} {value content : Option String}
    (same : optionalField key value = optionalField key content) : value = content := by
  cases value
  all_goals cases content
  all_goals simp_all [optionalField]

theorem extensionFields_inj {extension other : Extension}
    (same : extensionFields extension = extensionFields other) : extension = other := by
  obtain ⟨sbrPresent, psPresent, objectType, index, hertz⟩ := extension
  obtain ⟨otherSbr, otherPs, otherType, otherIndex, otherHertz⟩ := other
  simpa [extensionFields, and_assoc] using same

theorem config_eq_of_fields {config other : DecoderConfig}
    (code : config.objectType = other.objectType) (core : coreFields config = coreFields other)
    (extension : config.extension = other.extension) : config = other := by
  obtain ⟨objectType, ⟨index, hertz⟩, layout, count, short, depends, delay, _⟩ := config
  obtain ⟨otherType, ⟨otherIndex, otherHertz⟩, otherLayout, otherCount, otherShort, otherDepends,
    otherDelay, _⟩ := other
  cases code
  cases extension
  simp only [coreFields, List.cons.injEq, Prod.mk.injEq, Scalar.number.injEq, Scalar.text.injEq,
    Scalar.flag.injEq, true_and, and_true] at core
  obtain ⟨rfl, rfl, number, name, rfl, rfl, rfl, rfl⟩ := core
  rw [ChannelLayout.eq_of_name_eq number name]

theorem refusal_eq_of_message {refusal other : Option DecodeError}
    (same : refusal.map DecodeError.message = other.map DecodeError.message) : refusal = other :=
  Option.map_injective (fun _ _ => DecodeError.message_inj) same

/-- The document of a report tells the report. -/
theorem document_inj (same : report.document = other.document) : report = other := by
  simp only [document, List.cons_append, List.append_assoc, List.nil_append, List.cons.injEq,
    Entry.scalar.injEq, Prod.mk.injEq, Scalar.number.injEq, true_and] at same
  obtain ⟨code, rest⟩ := same
  -- equal types have equal names, so what stands behind the name starts at the same place
  rw [code] at rest
  -- the core fields are always as many, so the lists split at the same place
  obtain ⟨core, rest⟩ := List.append_inj (List.append_cancel_left rest) (by simp [coreFields])
  simp only [List.cons.injEq, Entry.group.injEq, true_and] at rest
  obtain ⟨extension, mode, refusal⟩ := rest
  have config : report.config = other.config :=
    config_eq_of_fields code (List.map_injective_iff.mpr (fun _ _ => Entry.scalar.inj) core)
      (extensionFields_inj extension)
  simp only [modeFields, List.cons.injEq, Prod.mk.injEq, Scalar.number.injEq, Scalar.text.injEq,
    true_and, and_true] at mode
  obtain ⟨profile, packets, -⟩ := mode
  calc report
    _ = ⟨report.config, report.profile, report.packetsPerConversion, report.refusal⟩ := rfl
    _ = ⟨other.config, other.profile, other.packetsPerConversion, other.refusal⟩ := by
        rw [config, Profile.name_inj profile, packets,
          refusal_eq_of_message (optionalField_inj refusal)]
    _ = other := rfl

/-- The text of a report is read as the document of this report only. -/
theorem read_renderYaml_eq_some_iff (report other : Report) :
    Yaml.read report.renderYaml = some other.document ↔ other = report := by
  rw [read_renderYaml, Option.some_inj]
  constructor
  · exact fun same => document_inj same.symm
  · rintro rfl
    rfl

/-! ## Printed reports -/

/-- What is printed is the report of the byte string in the format that is asked for. -/
theorem eq_render_of_info {format : ReportFormat} {strict : Bool} {data : List UInt8}
    {earlier later : List Log.Event} {text : String}
    (printed : Command.info format strict data earlier = .ok text later) :
    ∃ report, (analyze strict data).1 = .ok report ∧ text = format.render report := by
  unfold Command.info at printed
  generalize analyze strict data = analysis at printed ⊢
  obtain ⟨outcome, events⟩ := analysis
  cases outcome with
  | error reason => cases printed
  | ok report =>
      cases printed
      exact ⟨report, rfl, rfl⟩

theorem isSome_refusal_describing (data : List UInt8) :
    (describing data).refusal.isSome = !(decode data).isOk := by
  show (overwrite {} data).refusal.isSome = !(overwrite {} data).result.isOk
  rw [Attempt.result]
  cases (overwrite {} data).refusal
  all_goals rfl

/-- **Reports for programs.** Whatever is printed as YAML is read back as the document of the
report and of no other. The keys stand in their order, each one once and with a value of its own
kind; the name of the object type is among them exactly if the type has one, and the reason of a
refusal exactly if the byte string is not decoded. No other report is printed as the same text. -/
theorem info_yaml_read_back {strict : Bool} {data : List UInt8} {earlier later : List Log.Event}
    {text : String} (printed : Command.info .yaml strict data earlier = .ok text later) :
    ∃ report, (analyze strict data).1 = .ok report ∧
      (∀ other : Report, Yaml.read text = some other.document ↔ other = report) ∧
      report.document.flatMap Entry.schema =
        schema report.config.objectType.name?.isSome (!(decode data).isOk) ∧
      ((report.document.flatMap Entry.schema).map Prod.fst).Nodup ∧
      ∀ otherStrict otherData otherEarlier otherLater,
        Command.info .yaml otherStrict otherData otherEarlier = .ok text otherLater →
        (analyze otherStrict otherData).1 = .ok report := by
  obtain ⟨report, produced, rfl⟩ := eq_render_of_info printed
  have refused : report.refusal.isSome = !(decode data).isOk := by
    rw [eq_describing_of_analyze produced, isSome_refusal_describing]
  refine ⟨report, produced, report.read_renderYaml_eq_some_iff, ?_, ?_, ?_⟩
  · rw [schema_document, refused]
  · rw [schema_document]
    cases report.config.objectType.name?.isSome
    all_goals cases report.refusal.isSome
    all_goals decide
  · intro otherStrict otherData otherEarlier otherLater otherPrinted
    obtain ⟨other, otherProduced, same⟩ := eq_render_of_info otherPrinted
    -- one text is read in one way, so both reports have the same document
    have read := other.read_renderYaml
    rw [show other.renderYaml = report.renderYaml from same.symm] at read
    rw [otherProduced, (report.read_renderYaml_eq_some_iff other).mp read]

/-- Three bytes that are refused in the flags of the core coder, behind an extension. -/
theorem info_yaml_read_back_announced :
    ∃ later,
      Command.info .yaml false [0xEB, 0x8A, 0x08] [] =
        .ok (describing [0xEB, 0x8A, 0x08]).renderYaml later ∧
      Yaml.read (describing [0xEB, 0x8A, 0x08]).renderYaml =
        some (describing [0xEB, 0x8A, 0x08]).document ∧
      (describing [0xEB, 0x8A, 0x08]).document.flatMap Entry.schema = schema true true := by
  have printed : Command.info .yaml false [0xEB, 0x8A, 0x08] [] =
      .ok (describing [0xEB, 0x8A, 0x08]).renderYaml
        ([.analyzing [0xEB, 0x8A, 0x08]] ++ (analyze false [0xEB, 0x8A, 0x08]).2) := rfl
  obtain ⟨report, produced, read, keys, -⟩ := info_yaml_read_back printed
  obtain rfl := eq_describing_of_analyze produced
  exact ⟨_, printed, (read _).mpr rfl, keys⟩

end Report

end AacConfig
