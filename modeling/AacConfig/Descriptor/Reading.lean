import AacConfig.Descriptor

/-!
# Nested descriptors and their reading

What a descriptor is made of: a tag, the length of a payload, and the payload,
in which further descriptors nest (`frame`, `wrapped`). A reader that knows no
more than that takes a byte string apart into the descriptors that fill it from
end to end (`unframeAll?`), and finds a configuration in the innermost of three
nested ones (`specificInfo?`).
-/

namespace AacConfig.Descriptor

/-! ## Nesting -/

/-- A tag, the length of a payload of fewer than 256 bytes, and the payload. -/
def frame (tag : Tag) (payload : List UInt8) : List UInt8 :=
  tag.byte :: UInt8.ofNat payload.length :: payload

/-- The nested descriptors around a configuration. -/
def wrapped (data : List UInt8) : List UInt8 :=
  frame .stream
    (streamHeader ++
      frame .decoder (decoderHeader ++ frame .specificInfo data) ++
      frame .synchronisation synchronisationPayload)

/-! ## Reading -/

/-- The first descriptor of a byte string as tag byte and payload, and the bytes behind it. -/
def unframe? : List UInt8 → Option ((UInt8 × List UInt8) × List UInt8)
  | tag :: length :: rest =>
      if length.toNat ≤ rest.length then
        some ((tag, rest.take length.toNat), rest.drop length.toNat)
      else none
  | _ => none

/-- A descriptor takes at least its tag and its length from the bytes. -/
theorem length_lt_of_unframe? {bytes behind : List UInt8} {descriptor : UInt8 × List UInt8}
    (found : unframe? bytes = some (descriptor, behind)) : behind.length < bytes.length := by
  match bytes with
  | tag :: length :: rest =>
      simp only [unframe?] at found
      split at found
      · cases found
        simp only [List.length_drop, List.length_cons]
        omega
      · cases found

/-- The descriptors that fill a byte string, one behind the other, as tag bytes and payloads. -/
def unframeAll? (bytes : List UInt8) : Option (List (UInt8 × List UInt8)) :=
  if bytes = [] then some []
  else
    match _ : unframe? bytes with
    | none => none
    | some (descriptor, behind) => (unframeAll? behind).map (descriptor :: ·)
termination_by bytes.length
decreasing_by exact length_lt_of_unframe? ‹_›

/-- The configuration inside a stream descriptor. It stands in the decoder specific information
behind the thirteen fixed bytes of the decoder descriptor, and that stands behind the three of
the stream descriptor. -/
def specificInfo? (bytes : List UInt8) : Option (List UInt8) := do
  let [(3, stream)] ← unframeAll? bytes | none
  let [(4, decoder), (6, _)] ← unframeAll? (stream.drop 3) | none
  let [(5, data)] ← unframeAll? (decoder.drop 13) | none
  return data

end AacConfig.Descriptor
