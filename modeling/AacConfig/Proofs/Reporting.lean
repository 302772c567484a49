import AacConfig.Proofs.Forgiving
import AacConfig.Proofs.Mode
import AacConfig.Report.Schema
import Mathlib.Data.List.Nodup

/-!
# Reports and modes

A report makes its own choice between the length of a byte string, its refusal
and the strictness of the caller, where the selection of a mode has another
one. They agree (`Report.analyze_agrees`): a report that is not fatal is always
the same report of the byte string (`Report.describing`), and it is fatal only
for a strict caller, exactly where a mode is refused.
-/

namespace AacConfig.Report

open DecoderConfig (decode overwrite)
open Yaml (Entry Scalar)

variable {data : List UInt8} {report : Report}

/-! ## The document of a report -/

/-- The values in a document are what the keys show, in their order. -/
theorem leaves_document (report : Report) :
    report.document.flatMap Entry.leaves =
      views.filterMap fun shown => (shown.2 report).map fun value => (shown.1, value) := by
  obtain ⟨config, profile, packets, refusal⟩ := report
  cases named : config.objectType.name?
  all_goals cases refusal
  all_goals simp [document, named, optionalField, coreFields, extensionFields, modeFields,
    Entry.leaves, views]

/-- A value stands behind its keys exactly if that is what they show. -/
theorem mem_leaves_document_iff (report : Report) {shown : List String × (Report → Option Scalar)}
    (listed : shown ∈ views) (value : Scalar) :
    (shown.1, value) ∈ report.document.flatMap Entry.leaves ↔ shown.2 report = some value := by
  rw [leaves_document, List.mem_filterMap]
  constructor
  · rintro ⟨other, otherListed, found⟩
    obtain ⟨_, viewed, same⟩ := Option.map_eq_some_iff.mp found
    obtain ⟨keys, rfl⟩ := Prod.mk.inj same
    -- no two entries of the table have the same keys
    have once : (views.map Prod.fst).Nodup := by decide
    rw [← List.inj_on_of_nodup_map once otherListed listed keys]
    exact viewed
  · intro viewed
    exact ⟨shown, listed, Option.map_eq_some_iff.mpr ⟨value, viewed, rfl⟩⟩

/-! ## Reports of byte strings -/

/-- The report of a byte string: what is decoded of it, and the mode that it selects. -/
def describing (data : List UInt8) : Report :=
  ofMode (overwrite {} data).config (DecoderMode.ofBytesOrPlain data) (overwrite {} data).refusal

theorem ofBytes_of_refusal_none (long : DecoderMode.headerBytes < data.length)
    (granted : (overwrite {} data).refusal = none) :
    DecoderMode.ofBytes data = .ok (DecoderMode.ofConfig (overwrite {} data).config) := by
  rw [DecoderMode.ofBytes_of_lt long, decode, Attempt.result, granted]
  rfl

theorem ofBytes_of_refusal {reason : DecodeError} (long : DecoderMode.headerBytes < data.length)
    (refused : (overwrite {} data).refusal = some reason) :
    DecoderMode.ofBytes data = .error reason := by
  rw [DecoderMode.ofBytes_of_lt long, decode, Attempt.result, refused]
  rfl

/-- A strict caller gets the report where a mode is selected, and any other caller always. -/
theorem analyze_eq (strict : Bool) (data : List UInt8) :
    (analyze strict data).1 =
      if strict then (DecoderMode.ofBytes data).map fun _ => describing data
      else .ok (describing data) := by
  rcases Nat.lt_or_ge DecoderMode.headerBytes data.length with long | short
  · have notShort := Nat.not_le.mpr long
    cases refusal : (overwrite {} data).refusal with
    | none =>
        have selected := ofBytes_of_refusal_none long refusal
        simp only [analyze, refusal, notShort, describing, selected,
          DecoderMode.ofBytesOrPlain_of_ofBytes selected]
        cases strict <;> rfl
    | some reason =>
        have refused := ofBytes_of_refusal long refusal
        simp only [analyze, refusal, notShort, describing, refused, DecoderMode.ofBytesOrPlain_eq]
        cases strict <;> rfl
  -- no mode is looked for in so few bytes, so a strict caller is not refused either
  · have same : describing data =
        ofMode (overwrite {} data).config {} (overwrite {} data).refusal := by
      rw [describing, DecoderMode.ofBytesOrPlain_of_le short]
    rw [same, DecoderMode.ofBytes_of_le short]
    cases refusal : (overwrite {} data).refusal with
    | none =>
        simp only [analyze, refusal, short]
        cases strict <;> rfl
    | some reason =>
        simp only [analyze, refusal, short]
        cases strict <;> rfl

/-- What a report says is what decoding the byte string and selecting a mode for it say. -/
structure Describes (report : Report) (data : List UInt8) : Prop where
  profile : report.profile = (DecoderMode.ofBytesOrPlain data).profile
  packets : report.packetsPerConversion = (DecoderMode.ofBytesOrPlain data).packetsPerConversion
  refusal : ∀ reason, report.refusal = some reason ↔ decode data = .error reason
  /-- The document has the wording of the refusal. -/
  message : ∀ text, .scalar ("error", .text text) ∈ report.document ↔
    ∃ reason, decode data = .error reason ∧ text = reason.message
  /-- Behind its keys the document has every field of the record and of the mode. -/
  document : ∀ shown ∈ views, ∀ value,
    (shown.1, value) ∈ report.document.flatMap Entry.leaves ↔ shown.2 report = some value
  config : ∀ prior, report.config = (overwrite prior data).config

theorem mem_optionalField_iff {name key text : String} {value : Option String} :
    .scalar (name, .text text) ∈ optionalField key value ↔ name = key ∧ value = some text := by
  unfold optionalField
  cases value with
  | none => simp
  | some content => simp [eq_comm]

theorem error_mem_document_iff (report : Report) (text : String) :
    .scalar ("error", .text text) ∈ report.document ↔
      ∃ reason, report.refusal = some reason ∧ text = reason.message := by
  have wording : report.refusal.map DecodeError.message = some text ↔
      ∃ reason, report.refusal = some reason ∧ text = reason.message := by
    simp only [Option.map_eq_some_iff, eq_comm]
  rw [← wording]
  simp [document, coreFields, mem_optionalField_iff]

theorem refusal_overwrite_eq_some_iff {reason : DecodeError} :
    (overwrite {} data).refusal = some reason ↔ decode data = .error reason := by
  simp only [decode, Attempt.result]
  cases (overwrite {} data).refusal with
  | none => simp
  | some found => simp

theorem describes_describing (data : List UInt8) : (describing data).Describes data where
  profile := rfl
  packets := rfl
  refusal := fun _ => refusal_overwrite_eq_some_iff
  message := by
    intro text
    rw [error_mem_document_iff]
    simp only [describing, ofMode, refusal_overwrite_eq_some_iff]
  document := fun _ listed value => (describing data).mem_leaves_document_iff listed value
  config := fun _ => rfl

theorem eq_describing_of_analyze {strict : Bool}
    (produced : (analyze strict data).1 = .ok report) : report = describing data := by
  rw [analyze_eq] at produced
  cases strict with
  | false => exact (Except.ok.inj produced).symm
  | true =>
      cases selected : DecoderMode.ofBytes data with
      | ok mode =>
          rw [selected] at produced
          exact (Except.ok.inj produced).symm
      | error reason =>
          rw [selected] at produced
          cases produced

/-- A report decides as the selection of a mode does. It is fatal for a strict caller exactly where
a mode is refused, with the same reason, and for no other caller. Whenever there is a report it
says what the byte string decodes to and which mode is selected, and a strict caller gets no other
report than one that is not strict. -/
theorem analyze_agrees (data : List UInt8) :
    (∀ reason, (analyze true data).1 = .error reason ↔ DecoderMode.ofBytes data = .error reason) ∧
    (∀ reason, (analyze false data).1 ≠ .error reason) ∧
    (∀ strict report, (analyze strict data).1 = .ok report → report.Describes data) ∧
    ∀ report, (analyze true data).1 = .ok report → (analyze false data).1 = .ok report := by
  refine ⟨?_, ?_, ?_, ?_⟩
  · intro reason
    rw [analyze_eq, if_pos rfl]
    cases DecoderMode.ofBytes data with
    | ok mode => exact ⟨nofun, nofun⟩
    | error found => simp [Except.map]
  · intro reason
    rw [analyze_eq]
    nofun
  · intro strict report produced
    rw [eq_describing_of_analyze produced]
    exact describes_describing data
  · intro report produced
    rw [eq_describing_of_analyze produced, analyze_eq]
    rfl

/-- A byte that is too short is shown to a strict caller too, three bytes are fatal for it. -/
theorem analyze_agrees_short :
    (analyze true [0xEB, 0x8A, 0x08]).1 = .error (.truncated 1 24 0) ∧
    DecoderMode.ofBytes [0xEB, 0x8A, 0x08] = .error (.truncated 1 24 0) ∧
    (analyze true [0x12]).1 = .ok (describing [0x12]) ∧
    (describing [0x12]).Describes [0x12] ∧
    (analyze false [0x12]).1 = .ok (describing [0x12]) := by
  have fatal : (analyze true [0xEB, 0x8A, 0x08]).1 = .error (.truncated 1 24 0) := rfl
  have shown : (analyze true [0x12]).1 = .ok (describing [0x12]) := rfl
  obtain ⟨-, -, describes, same⟩ := analyze_agrees [0x12]
  exact ⟨fatal, ((analyze_agrees [0xEB, 0x8A, 0x08]).1 _).mp fatal, shown,
    describes true _ shown, same _ shown⟩

end AacConfig.Report
