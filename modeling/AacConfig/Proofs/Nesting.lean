import AacConfig.Descriptor.Reading

/-!
# Nested descriptors

A descriptor around a configuration is well nested, whatever bytes the
configuration has: a reader that only goes by tags and lengths finds exactly
the descriptors that were put there, and in the innermost one the configuration
(`build_nests`). The greatest length of a configuration is the one that just
fits the outermost length byte, so no length byte wraps around.
-/

namespace AacConfig.Descriptor

/-! ## Lengths -/

@[simp] theorem length_frame (tag : Tag) (payload : List UInt8) :
    (frame tag payload).length = payload.length + 2 := rfl

@[simp] theorem length_streamHeader : streamHeader.length = 3 := rfl

@[simp] theorem length_decoderHeader : decoderHeader.length = 13 := rfl

/-- The length byte of a payload that is short enough for one says how long it is. -/
theorem toNat_length {payload : List UInt8} (short : payload.length < 256) :
    (UInt8.ofNat payload.length).toNat = payload.length := by
  rw [UInt8.toNat_ofNat']
  exact Nat.mod_eq_of_lt short

/-! ## Reading back -/

/-- A descriptor in front is read back, whatever stands behind it. -/
theorem unframe?_frame_append (tag : Tag) {payload : List UInt8} (short : payload.length < 256)
    (behind : List UInt8) :
    unframe? (frame tag payload ++ behind) = some ((tag.byte, payload), behind) := by
  simp [frame, unframe?, toNat_length short]

@[simp] theorem unframeAll?_nil : unframeAll? [] = some [] := by
  rw [unframeAll?, if_pos rfl]

theorem unframeAll?_frame_append (tag : Tag) {payload : List UInt8} (short : payload.length < 256)
    (behind : List UInt8) :
    unframeAll? (frame tag payload ++ behind) =
      (unframeAll? behind).map ((tag.byte, payload) :: ·) := by
  have read := unframe?_frame_append tag short behind
  have front : frame tag payload ++ behind ≠ [] := by simp [frame]
  rw [unframeAll?, if_neg front]
  split
  · rename_i missing
    rw [read] at missing
    cases missing
  · rename_i found
    rw [read] at found
    cases found
    rfl

/-- A descriptor fills its own bytes alone. -/
theorem unframeAll?_frame (tag : Tag) {payload : List UInt8} (short : payload.length < 256) :
    unframeAll? (frame tag payload) = some [(tag.byte, payload)] := by
  have alone := unframeAll?_frame_append tag short []
  rwa [List.append_nil, unframeAll?_nil] at alone

/-! ## Descriptors around a configuration -/

/-- The payload of the decoder descriptor around a configuration. -/
def decoderPayload (data : List UInt8) : List UInt8 :=
  decoderHeader ++ frame .specificInfo data

/-- The payload of the stream descriptor around a configuration. -/
def streamPayload (data : List UInt8) : List UInt8 :=
  streamHeader ++
    (frame .decoder (decoderPayload data) ++ frame .synchronisation synchronisationPayload)

@[simp] theorem length_decoderPayload (data : List UInt8) :
    (decoderPayload data).length = data.length + 15 := by
  simp only [decoderPayload, List.length_append, length_decoderHeader, length_frame]
  omega

@[simp] theorem length_streamPayload (data : List UInt8) :
    (streamPayload data).length = data.length + 23 := by
  have last : synchronisationPayload.length = 1 := rfl
  simp only [streamPayload, List.length_append, length_streamHeader, length_frame,
    length_decoderPayload, last]
  omega

theorem wrapped_eq (data : List UInt8) : wrapped data = frame .stream (streamPayload data) := by
  simp only [wrapped, streamPayload, decoderPayload, List.append_assoc]

theorem greatestLength_eq : greatestLength = 232 := rfl

/-- What is written is nested: the lengths that are counted back from the size of the whole are
those of the payloads. -/
theorem written_eq_wrapped (data : List UInt8) : written data = wrapped data := by
  -- two bytes in front of the stream payload, and eight more in front of the decoder's
  have outer : data.length + overhead - 2 = (streamPayload data).length := by
    rw [length_streamPayload, overhead]
    omega
  have inner : data.length + overhead - 10 = (decoderPayload data).length := by
    rw [length_decoderPayload, overhead]
    omega
  simp only [wrapped_eq, written, outer, inner]
  simp [frame, streamPayload, decoderPayload, synchronisationPayload]

theorem build_eq_error_iff {data : List UInt8} {reason : TooLong} :
    build data = .error reason ↔
      greatestLength < data.length ∧ reason = { length := data.length } := by
  unfold build
  split
  · rename_i long
    rw [and_iff_right long, Except.error.injEq, eq_comm]
  · rename_i fits
    exact ⟨nofun, fun given => absurd given.1 fits⟩

theorem build_eq_ok_iff {data bytes : List UInt8} :
    build data = .ok bytes ↔ data.length ≤ greatestLength ∧ bytes = wrapped data := by
  rw [← written_eq_wrapped]
  unfold build
  by_cases long : greatestLength < data.length
  · rw [if_pos long]
    simp [Nat.not_le.mpr long]
  · rw [if_neg long, Except.ok.injEq, eq_comm, and_iff_right (Nat.not_lt.mp long)]

section Short

variable {data : List UInt8} (short : data.length ≤ greatestLength)

include short

/-- The configuration fills what stands behind the fixed bytes of the decoder descriptor. -/
theorem unframeAll?_decoderPayload :
    unframeAll? ((decoderPayload data).drop 13) = some [(Tag.specificInfo.byte, data)] := by
  have fits : data.length < 256 := Nat.lt_of_le_of_lt short (by decide)
  rw [decoderPayload, List.drop_left' length_decoderHeader, unframeAll?_frame _ fits]

/-- Two descriptors fill what stands behind the fixed bytes of the stream descriptor. -/
theorem unframeAll?_streamPayload :
    unframeAll? ((streamPayload data).drop 3) =
      some [(Tag.decoder.byte, decoderPayload data),
        (Tag.synchronisation.byte, synchronisationPayload)] := by
  have fits : (decoderPayload data).length < 256 := by
    rw [greatestLength_eq] at short
    rw [length_decoderPayload]
    omega
  rw [streamPayload, List.drop_left' length_streamHeader, unframeAll?_frame_append _ fits,
    unframeAll?_frame _ (by decide)]
  rfl

/-- The outermost length byte just counts the longest configuration. -/
theorem unframeAll?_wrapped :
    unframeAll? (wrapped data) = some [(Tag.stream.byte, streamPayload data)] := by
  -- the bound is tight here: 232 bytes and the 23 around them make 255
  have fits : (streamPayload data).length < 256 := by
    rw [greatestLength_eq] at short
    rw [length_streamPayload]
    omega
  rw [wrapped_eq, unframeAll?_frame _ fits]

theorem specificInfo?_wrapped : specificInfo? (wrapped data) = some data := by
  simp [specificInfo?, unframeAll?_wrapped short, unframeAll?_streamPayload short,
    unframeAll?_decoderPayload short, Tag.byte]

end Short

/-- **Descriptors around a configuration nest.** A byte string is refused exactly if it has more
than 232 bytes. Any other one is put into 25 bytes more, which a single stream descriptor fills.
Behind the three fixed bytes of that stand a decoder descriptor and the synchronisation and
nothing else, and behind the thirteen fixed bytes of the decoder descriptor nothing but the byte
string under its own tag. The three length bytes that depend on it say as numbers how many bytes
they cover, so none of them has wrapped around. A reader finds the byte string again, and two
byte strings never have the same descriptor. -/
theorem build_nests (data : List UInt8) :
    (∀ error, build data = .error error ↔ 232 < data.length ∧ error = { length := data.length }) ∧
    TooLong.message { length := data.length } =
      s!"Extradata too long for ES_Descriptor: {data.length} > {232} bytes" ∧
    ((∃ bytes, build data = .ok bytes) ↔ data.length ≤ 232) ∧
    ∀ bytes, build data = .ok bytes →
      bytes.length = data.length + 25 ∧
      (∃ stream decoder : List UInt8,
        unframeAll? bytes = some [(3, stream)] ∧
        unframeAll? (stream.drop 3) = some [(4, decoder), (6, [2])] ∧
        unframeAll? (decoder.drop 13) = some [(5, data)] ∧
        stream.length + 2 = bytes.length ∧ decoder.length = data.length + 15 ∧
        bytes[1]?.map UInt8.toNat = some stream.length ∧
        bytes[6]?.map UInt8.toNat = some decoder.length ∧
        bytes[21]?.map UInt8.toNat = some data.length) ∧
      specificInfo? bytes = some data ∧
      ∀ other, build other = .ok bytes → other = data := by
  refine ⟨fun error => build_eq_error_iff, rfl, ?_, ?_⟩
  · simp only [build_eq_ok_iff, exists_and_left, exists_eq, and_true]
    rfl
  · intro bytes built
    obtain ⟨short, rfl⟩ := build_eq_ok_iff.mp built
    have bounded : data.length ≤ 232 := short
    refine ⟨?_, ⟨streamPayload data, decoderPayload data, unframeAll?_wrapped short,
      unframeAll?_streamPayload short, unframeAll?_decoderPayload short, ?_, ?_, ?_, ?_, ?_⟩,
      specificInfo?_wrapped short, ?_⟩
    · simp [wrapped_eq]
    · simp [wrapped_eq]
    · simp
    · show some (UInt8.ofNat (streamPayload data).length).toNat = some (streamPayload data).length
      rw [toNat_length (by simp; omega)]
    · show some (UInt8.ofNat (decoderPayload data).length).toNat =
        some (decoderPayload data).length
      rw [toNat_length (by simp; omega)]
    · show some (UInt8.ofNat data.length).toNat = some data.length
      rw [toNat_length (by omega)]
    -- reading back is a left inverse, so equal descriptors come from equal bytes
    · intro other same
      obtain ⟨otherShort, equal⟩ := build_eq_ok_iff.mp same
      have found := specificInfo?_wrapped otherShort
      rw [← equal, specificInfo?_wrapped short] at found
      exact (Option.some.inj found).symm

/-- The longest configuration there is room for, with the tag of its own descriptor everywhere. -/
theorem build_nests_longest :
    build (List.replicate 232 5) = .ok (wrapped (List.replicate 232 5)) ∧
    (wrapped (List.replicate 232 5)).length = 257 ∧
    specificInfo? (wrapped (List.replicate 232 5)) = some (List.replicate 232 5) := by
  have built : build (List.replicate 232 5) = .ok (wrapped (List.replicate 232 5)) :=
    build_eq_ok_iff.mpr ⟨Nat.le_of_eq List.length_replicate, rfl⟩
  obtain ⟨length, -, found, -⟩ := (build_nests (List.replicate 232 5)).2.2.2 _ built
  exact ⟨built, length, found⟩

end AacConfig.Descriptor
