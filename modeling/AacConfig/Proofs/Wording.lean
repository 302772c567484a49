import AacConfig.Log.Event
import AacConfig.Proofs.Numerals
import Mathlib.Data.List.Nodup

/-!
# The wording of records

Different events of a decoding are logged in different words
(`Event.eq_of_message_eq`). A record is a fixed text with values in its gaps.
What it is about is told by its first letters (`Topic.eq_of_opening_eq`). The
values are words of letters and digits and the text behind each of them starts
with another character, so a value ends where the text goes on, whatever the
value is (`values_eq_of_spelled_eq`).
-/

namespace AacConfig.Log

/-! ## Texts with values in them -/

/-- The characters of fixed texts with a value behind each of them. -/
def spelled : (texts values : List String) → List Char
  | text :: texts, value :: values => text.toList ++ (value.toList ++ spelled texts values)
  | _, _ => []

/-- A text of letters and digits. -/
def IsWord (text : String) : Prop :=
  ∀ character ∈ text.toList, character.isAlphanum = true

instance (text : String) : Decidable (IsWord text) :=
  decidable_of_iff (text.toList.all Char.isAlphanum = true) List.all_eq_true

/-- A text that starts with neither a letter nor a digit. -/
def StartsApart (text : String) : Prop :=
  text.toList.head?.map Char.isAlphanum = some false

instance (text : String) : Decidable (StartsApart text) :=
  inferInstanceAs (Decidable (_ = _))

theorem StartsApart.exists_cons {text : String} (starts : StartsApart text) :
    ∃ first rest, text.toList = first :: rest ∧ first.isAlphanum = false := by
  obtain ⟨first, head, apart⟩ := Option.map_eq_some_iff.mp starts
  obtain ⟨rest, split⟩ := List.head?_eq_some_iff.mp head
  exact ⟨first, rest, split, apart⟩

/-- What stands in front of the first separator, and behind it, is told by the whole. -/
theorem split_unique {separator : Char} {front other rest otherRest : List Char}
    (apart : separator ∉ front) (otherApart : separator ∉ other)
    (same : front ++ separator :: rest = other ++ separator :: otherRest) :
    front = other ∧ rest = otherRest := by
  induction front generalizing other with
  | nil =>
      cases other with
      | nil => exact ⟨rfl, (List.cons.inj same).2⟩
      | cons first more =>
          rw [(List.cons.inj same).1] at otherApart
          exact absurd List.mem_cons_self otherApart
  | cons first more found =>
      cases other with
      | nil =>
          rw [(List.cons.inj same).1] at apart
          exact absurd List.mem_cons_self apart
      | cons second others =>
          obtain ⟨rfl, behind⟩ := List.cons.inj same
          obtain ⟨rfl, rfl⟩ := found (fun member => apart (List.mem_cons_of_mem _ member))
            (fun member => otherApart (List.mem_cons_of_mem _ member)) behind
          exact ⟨rfl, rfl⟩

/-- A word in front of a text that starts apart is told by the whole, and so is what stands
behind the text. -/
theorem word_eq_of_append_eq {next value other : String} {rest otherRest : List Char}
    (apart : StartsApart next) (word : IsWord value) (otherWord : IsWord other)
    (same : value.toList ++ (next.toList ++ rest) = other.toList ++ (next.toList ++ otherRest)) :
    value = other ∧ rest = otherRest := by
  obtain ⟨first, more, starts, notWord⟩ := apart.exists_cons
  -- the letter that the next text starts with ends the word, for it stands in no word
  have absent : ∀ {text : String}, IsWord text → first ∉ text.toList := by
    intro text word member
    rw [word first member] at notWord
    cases notWord
  rw [starts] at same
  obtain ⟨front, behind⟩ := split_unique (absent word) (absent otherWord) same
  exact ⟨String.toList_inj.mp front, List.append_cancel_left behind⟩

/-- The values are told by the text, if all but the last are words and every text behind a value
starts apart. -/
theorem values_eq_of_spelled_eq {texts values others : List String}
    (count : values.length = texts.length) (otherCount : others.length = texts.length)
    (between : ∀ text ∈ texts.tail, StartsApart text)
    (words : ∀ value ∈ values.dropLast, IsWord value)
    (otherWords : ∀ value ∈ others.dropLast, IsWord value)
    (same : spelled texts values = spelled texts others) : values = others := by
  induction texts generalizing values others with
  | nil => rw [List.length_eq_zero_iff.mp count, List.length_eq_zero_iff.mp otherCount]
  | cons text texts found =>
      obtain ⟨value, values, rfl⟩ := List.exists_cons_of_length_eq_add_one count
      obtain ⟨other, others, rfl⟩ := List.exists_cons_of_length_eq_add_one otherCount
      -- the fixed text cancels; what tells the value from the rest is the text behind it
      have behind := List.append_cancel_left same
      replace count := Nat.succ.inj count
      replace otherCount := Nat.succ.inj otherCount
      cases texts with
      | nil =>
          -- the last value may be any text, for nothing stands behind it
          rw [List.length_eq_zero_iff.mp count, List.length_eq_zero_iff.mp otherCount] at behind ⊢
          have alone := (List.append_nil _).symm.trans (behind.trans (List.append_nil _))
          rw [String.toList_inj.mp alone]
      | cons next texts =>
          obtain ⟨second, values, rfl⟩ := List.exists_cons_of_length_eq_add_one count
          obtain ⟨otherSecond, others, rfl⟩ := List.exists_cons_of_length_eq_add_one otherCount
          obtain ⟨word, furtherWords⟩ := List.forall_mem_cons.mp words
          obtain ⟨otherWord, otherFurtherWords⟩ := List.forall_mem_cons.mp otherWords
          obtain ⟨apart, furtherApart⟩ := List.forall_mem_cons.mp between
          obtain ⟨rfl, rest⟩ := word_eq_of_append_eq apart word otherWord behind
          rw [found count otherCount furtherApart furtherWords otherFurtherWords
            (congrArg (next.toList ++ ·) rest)]

/-! ## Values -/

@[simp] theorem isWord_repr (number : Nat) : IsWord number.repr := by
  intro character member
  rw [Nat.toList_repr] at member
  have digit := Nat.isDigit_of_mem_toDigits (by decide) (by decide) member
  rw [Char.isAlphanum, digit, Bool.or_true]

theorem repr_inj {number other : Nat} (same : number.repr = other.repr) : number = other := by
  have digits := congrArg String.toList same
  rw [Nat.toList_repr, Nat.toList_repr] at digits
  rw [← Nat.ofDigitChars_ten_toDigits (n := number), digits, Nat.ofDigitChars_ten_toDigits]

@[simp] theorem isWord_toString (value : Bool) : IsWord (toString value) := by
  cases value with
  | false =>
      show IsWord "false"
      simp [IsWord]
  | true =>
      show IsWord "true"
      simp [IsWord]

theorem toString_inj {value other : Bool} (same : toString value = toString other) :
    value = other := by
  revert value other
  decide

@[simp] theorem isWord_markedHex (count value : Nat) : IsWord (Text.markedHex count value) := by
  have mark : IsWord "0x" := by simp [IsWord]
  intro character member
  simp only [Text.markedHex, String.toList_append, String.toList_ofList, Text.zeroPadded] at member
  rcases List.mem_append.mp member with front | digits
  · exact mark character front
  · rcases List.mem_append.mp digits with zeros | digits
    · rw [(List.mem_replicate.mp zeros).2]
      decide
    · obtain ⟨digit, small, rfl⟩ := Text.exists_of_mem_hexDigits digits
      exact Text.LetterCase.of_digits
        (fun letters value => (Text.hexDigit letters value).isAlphanum = true) (by decide)
        .capital small

theorem toList_message_objectType (code : Nat) :
    (Unsupported.objectType code).message.toList =
      "audio object type ".toList ++ code.repr.toList :=
  String.toList_append

/-- The first letter of the wording of a feature. -/
def initial : Unsupported → Char
  | .programConfigElement => 'p'
  | .extensionFlagPayload => 'e'
  | .objectType _ => 'a'

theorem head?_message (feature : Unsupported) :
    feature.message.toList.head? = some (initial feature) := by
  cases feature with
  | programConfigElement => decide +kernel
  | extensionFlagPayload => decide +kernel
  | objectType code =>
      have first : "audio object type ".toList.head? = some 'a' := by decide +kernel
      rw [toList_message_objectType, List.head?_append, first]
      rfl

/-- The wording of a feature tells the feature. -/
theorem feature_eq_of_message_eq {feature other : Unsupported}
    (same : feature.message = other.message) : feature = other := by
  have letters := congrArg String.toList same
  have initials := congrArg List.head? letters
  rw [head?_message, head?_message] at initials
  cases feature with
  | programConfigElement =>
      cases other with
      | programConfigElement => rfl
      | _ => cases initials
  | extensionFlagPayload =>
      cases other with
      | extensionFlagPayload => rfl
      | _ => cases initials
  | objectType code =>
      cases other with
      | objectType number =>
          rw [toList_message_objectType, toList_message_objectType] at letters
          rw [repr_inj (String.toList_inj.mp (List.append_cancel_left letters))]
      | _ => cases initials

/-! ## Events of a decoding -/

/-- What a record of a decoding is about. -/
inductive Topic
  | objectType
  | frequency
  | channels
  | explicitExtension
  | coreFlags
  | foreignSyncWord
  | syncExtension
  | tailLeft
deriving Repr, DecidableEq

namespace Topic

/-- The values that an event of a topic carries. -/
abbrev Content : Topic → Type
  | objectType => ObjectType
  | frequency => SamplingFrequency
  | channels => Nat × Nat
  | explicitExtension => Bool × Bool × ObjectType
  | coreFlags => Bool × Bool × Nat × Bool
  | foreignSyncWord => Nat
  | syncExtension => ObjectType × Bool × Bool
  | tailLeft => Nat × Unsupported

/-- The event of a topic with given values. -/
def event : (topic : Topic) → topic.Content → Event
  | objectType, code => .objectType code
  | frequency, value => .frequency value
  | channels, content => .channels content.1 content.2
  | explicitExtension, content => .explicitExtension content.1 content.2.1 content.2.2
  | coreFlags, content => .coreFlags content.1 content.2.1 content.2.2.1 content.2.2.2
  | foreignSyncWord, word => .foreignSyncWord word
  | syncExtension, content => .syncExtension content.1 content.2.1 content.2.2
  | tailLeft, content => .tailLeft content.1 content.2

/-- The fixed texts of a wording, one in front of each value. -/
def texts : Topic → List String
  | objectType => ["audioObjectType = "]
  | frequency => ["samplingFrequencyIndex = ", ", frequency = "]
  | channels => ["channelConfiguration = ", ", channel_count = "]
  | explicitExtension =>
      ["explicit extension: sbr = ", ", ps = ", ", core object type = "]
  | coreFlags =>
      ["GASpecificConfig: frameLengthFlag = ", ", dependsOnCoreCoder = ",
        ", coreCoderDelay = ", ", extensionFlag = "]
  | foreignSyncWord => ["syncExtensionType ", " not recognised"]
  | syncExtension => ["sync extension: object type = ", ", sbr = ", ", ps = "]
  | tailLeft => ["AudioSpecificConfig tail not decoded at bit ", ": "]

/-- The values of a wording. A text without a value behind it is followed by the empty one. -/
def values : (topic : Topic) → topic.Content → List String
  | objectType, code => [Nat.repr code]
  | frequency, value => [Text.markedHex 1 value.index, Nat.repr value.hertz]
  | channels, content => [Nat.repr content.1, Nat.repr content.2]
  | explicitExtension, content =>
      [toString content.1, toString content.2.1, Nat.repr content.2.2]
  | coreFlags, content =>
      [toString content.1, toString content.2.1, Nat.repr content.2.2.1, toString content.2.2.2]
  | foreignSyncWord, word => [Text.markedHex 3 word, ""]
  | syncExtension, content => [Nat.repr content.1, toString content.2.1, toString content.2.2]
  | tailLeft, content => [Nat.repr content.1, content.2.message]

theorem toList_message (topic : Topic) (content : topic.Content) :
    (topic.event content).message.toList = spelled topic.texts (topic.values content) := by
  cases topic with
  | objectType =>
      show ("audioObjectType = " ++ Nat.repr content).toList = _
      simp only [String.toList_append, spelled, texts, values, List.append_nil]
  | frequency =>
      obtain ⟨index, hertz⟩ := content
      show ("samplingFrequencyIndex = " ++ Text.markedHex 1 index ++ ", frequency = " ++
        hertz.repr).toList = _
      simp only [String.toList_append, List.append_assoc, spelled, texts, values, List.append_nil]
  | channels =>
      obtain ⟨number, count⟩ := content
      show ("channelConfiguration = " ++ number.repr ++ ", channel_count = " ++
        count.repr).toList = _
      simp only [String.toList_append, List.append_assoc, spelled, texts, values, List.append_nil]
  | explicitExtension =>
      obtain ⟨sbrPresent, psPresent, core⟩ := content
      show ("explicit extension: sbr = " ++ toString sbrPresent ++ ", ps = " ++
        toString psPresent ++ ", core object type = " ++ Nat.repr core).toList = _
      simp only [String.toList_append, List.append_assoc, spelled, texts, values, List.append_nil]
  | coreFlags =>
      obtain ⟨frameLengthFlag, dependsOnCoreCoder, coreCoderDelay, extensionFlag⟩ := content
      show ("GASpecificConfig: frameLengthFlag = " ++ toString frameLengthFlag ++ ", " ++
        ("dependsOnCoreCoder = " ++ toString dependsOnCoreCoder ++ ", ") ++
        ("coreCoderDelay = " ++ coreCoderDelay.repr ++ ", extensionFlag = " ++
          toString extensionFlag)).toList = _
      simp only [String.toList_append, List.append_assoc, spelled, texts, values, List.append_nil]
      rfl
  | foreignSyncWord =>
      show ("syncExtensionType " ++ Text.markedHex 3 content ++ " not recognised").toList = _
      simp only [String.toList_append, List.append_assoc, spelled, texts, values, List.append_nil]
      rfl
  | syncExtension =>
      obtain ⟨code, sbrPresent, psPresent⟩ := content
      show ("sync extension: object type = " ++ Nat.repr code ++ ", sbr = " ++
        toString sbrPresent ++ ", ps = " ++ toString psPresent).toList = _
      simp only [String.toList_append, List.append_assoc, spelled, texts, values, List.append_nil]
  | tailLeft =>
      obtain ⟨position, feature⟩ := content
      show ("AudioSpecificConfig tail not decoded at bit " ++ position.repr ++ ": " ++
        feature.message).toList = _
      simp only [String.toList_append, List.append_assoc, spelled, texts, values, List.append_nil]

theorem length_values (topic : Topic) (content : topic.Content) :
    (topic.values content).length = topic.texts.length := by
  cases topic
  all_goals simp only [values, texts, List.length_cons, List.length_nil]

theorem startsApart_of_mem_texts (topic : Topic) : ∀ text ∈ topic.texts.tail, StartsApart text := by
  cases topic
  all_goals simp [texts, StartsApart]

theorem isWord_of_mem_values (topic : Topic) (content : topic.Content) :
    ∀ value ∈ (topic.values content).dropLast, IsWord value := by
  cases topic
  all_goals simp [values]

/-- The values are told by the words for them. -/
theorem content_eq_of_values_eq {topic : Topic} {content other : topic.Content}
    (same : topic.values content = topic.values other) : content = other := by
  cases topic
  all_goals simp only [values, List.cons.injEq] at same
  case objectType => exact repr_inj same.1
  case frequency =>
    obtain ⟨index, hertz, -⟩ := same
    exact congrArg₂ SamplingFrequency.mk (Text.markedHex_inj index) (repr_inj hertz)
  case channels =>
    obtain ⟨number, count, -⟩ := same
    exact Prod.ext (repr_inj number) (repr_inj count)
  case explicitExtension =>
    obtain ⟨sbrPresent, psPresent, core, -⟩ := same
    exact Prod.ext (toString_inj sbrPresent) (Prod.ext (toString_inj psPresent) (repr_inj core))
  case coreFlags =>
    obtain ⟨frameLengthFlag, dependsOnCoreCoder, coreCoderDelay, extensionFlag, -⟩ := same
    exact Prod.ext (toString_inj frameLengthFlag) (Prod.ext (toString_inj dependsOnCoreCoder)
      (Prod.ext (repr_inj coreCoderDelay) (toString_inj extensionFlag)))
  case foreignSyncWord => exact Text.markedHex_inj same.1
  case syncExtension =>
    obtain ⟨code, sbrPresent, psPresent, -⟩ := same
    exact Prod.ext (repr_inj code) (Prod.ext (toString_inj sbrPresent) (toString_inj psPresent))
  case tailLeft =>
    obtain ⟨position, feature, -⟩ := same
    exact Prod.ext (repr_inj position) (feature_eq_of_message_eq feature)

/-- All topics. -/
def all : List Topic :=
  [objectType, frequency, channels, explicitExtension, coreFlags, foreignSyncWord, syncExtension,
    tailLeft]

theorem mem_all (topic : Topic) : topic ∈ all := by
  cases topic
  all_goals decide

/-- The letters that a wording starts with, as many as it takes to tell the topics apart. -/
def opening (topic : Topic) : List Char :=
  (topic.texts.headD "").toList.take 5

theorem five_le_length_first :
    ∀ topic ∈ all, 5 ≤ (topic.texts.headD "").toList.length := by
  decide +kernel

theorem take_spelled (topic : Topic) (content : topic.Content) :
    (spelled topic.texts (topic.values content)).take 5 = topic.opening := by
  have enough := five_le_length_first topic topic.mem_all
  cases topic
  all_goals exact List.take_append_of_le_length enough

theorem eq_of_opening_eq {topic other : Topic} (same : topic.opening = other.opening) :
    topic = other := by
  have apart : (all.map opening).Nodup := by decide +kernel
  exact List.inj_on_of_nodup_map apart topic.mem_all other.mem_all same

end Topic

/-- An event of a decoding. -/
def Event.IsOfDecoding (event : Event) : Prop :=
  ∃ (topic : Topic) (content : topic.Content), topic.event content = event

/-- The wording of an event of a decoding tells the event. -/
theorem Event.eq_of_message_eq {event other : Event} (known : event.IsOfDecoding)
    (otherKnown : other.IsOfDecoding) (same : event.message = other.message) : event = other := by
  obtain ⟨topic, content, rfl⟩ := known
  obtain ⟨otherTopic, otherContent, rfl⟩ := otherKnown
  have letters := congrArg String.toList same
  rw [Topic.toList_message, Topic.toList_message] at letters
  -- the first letters tell the topic, so the fixed texts are the same
  have opening := congrArg (List.take 5) letters
  rw [Topic.take_spelled, Topic.take_spelled] at opening
  obtain rfl := Topic.eq_of_opening_eq opening
  have words := values_eq_of_spelled_eq (topic.length_values content)
    (topic.length_values otherContent) topic.startsApart_of_mem_texts
    (topic.isWord_of_mem_values content) (topic.isWord_of_mem_values otherContent) letters
  rw [Topic.content_eq_of_values_eq words]

/-- The wordings of the events of a decoding tell the events. -/
theorem events_eq_of_messages_eq {events others : List Event}
    (known : ∀ event ∈ events, event.IsOfDecoding)
    (otherKnown : ∀ event ∈ others, event.IsOfDecoding)
    (same : events.map Event.message = others.map Event.message) : events = others := by
  induction events generalizing others with
  | nil => rw [List.map_eq_nil_iff.mp same.symm]
  | cons event events found =>
      cases others with
      | nil => cases same
      | cons other others =>
          obtain ⟨first, rest⟩ := List.cons.inj same
          obtain ⟨knownFirst, known⟩ := List.forall_mem_cons.mp known
          obtain ⟨otherKnownFirst, otherKnown⟩ := List.forall_mem_cons.mp otherKnown
          rw [Event.eq_of_message_eq knownFirst otherKnownFirst first,
            found known otherKnown rest]

end AacConfig.Log
