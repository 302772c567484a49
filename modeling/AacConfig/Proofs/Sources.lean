import AacConfig.Proofs.Hexadecimal
import AacConfig.Proofs.Outcome

/-!
# Ways to give a configuration

A configuration may be given in hexadecimal, in a file or on standard input.
Command lines that differ in nothing else are answered alike, except that the
reading of an input is logged (`respond_sources`): exchanging the word that
says where the configuration comes from changes the place in the settings and
nothing else, and the action is carried out on the same bytes. An input that is
longer than any configuration is refused, and never taken for its front.
-/

namespace AacConfig.Command

open Log

/-- A command line of an action, with words before the action, one word behind it that says where
the configuration comes from, and others. -/
def LineFrom (action : Action) (before others : List Word) (word : Word)
    (arguments : List String) : Prop :=
  ∃ behind, Line action before behind arguments ∧ behind.filter Word.isSource = [word] ∧
    without sourceKinds behind = others

section Exchange

variable {action : Action} {before behind others : List Word} {word : Word} {source : Source}
  {arguments : List String} {around : Surroundings} {data : List UInt8}

/-- Words stand once if those besides the only source do. -/
theorem nodup_kinds_of_without (only : behind.filter Word.isSource = [word])
    (others : ((without sourceKinds behind).map Word.kind).Nodup) :
    (behind.map Word.kind).Nodup := by
  have rest : (behind.filter fun word => !word.isSource) = without sourceKinds behind := by
    simp only [Word.isSource_eq, without]
  -- where the source stands among the words is left open, so it is moved to the front first
  have sorted : behind.Perm (word :: without sourceKinds behind) := by
    have split := List.filter_append_perm Word.isSource behind
    rw [only, rest] at split
    exact split.symm
  have source := (mem_of_filter_isSource only).2
  rw [Word.isSource_eq, List.contains_iff_mem] at source
  rw [(sorted.map Word.kind).nodup_iff, List.map_cons, List.nodup_cons]
  refine ⟨?_, others⟩
  intro member
  obtain ⟨other, member, same⟩ := List.mem_map.mp member
  have different := (mem_without_iff.mp member).2
  rw [same] at different
  exact different source

theorem goTogether_of_without (onceBefore : (before.map Word.kind).Nodup)
    (only : behind.filter Word.isSource = [word])
    (others : ((without sourceKinds behind).map Word.kind).Nodup) : GoTogether before behind :=
  ⟨onceBefore, nodup_kinds_of_without only others, word, only⟩

/-- Besides the place, settings are those of the other words. -/
theorem ofWords_eq (only : behind.filter Word.isSource = [word])
    (rest : without sourceKinds behind = others) :
    Settings.ofWords action before behind =
      { Settings.ofWords action before others with
        source := { hex := word.hex?, input := word.input? } } := by
  subst rest
  simp only [Settings.ofWords, findSome?_of_source tells_hex (by decide) only,
    findSome?_of_source tells_input (by decide) only, List.findSome?_append,
    findSome?_without tells_reportFormat (by decide : .reportFormat ∉ sourceKinds),
    findSome?_without tells_verbosity (by decide : .verbosity ∉ sourceKinds),
    findSome?_without tells_lineFormat (by decide : .lineFormat ∉ sourceKinds),
    List.contains_append, contains_strict_without (by decide : .strict ∉ sourceKinds)]

variable (onceBefore : (before.map Word.kind).Nodup) (onceBehind : (others.map Word.kind).Nodup)
  (line : LineFrom action before others word arguments) (named : word.source? = some source)
  (environment : Environment)

include onceBefore onceBehind line named

/-- The bytes that the named place gives are answered for. -/
theorem respond_of_gives (gives : source.Gives around data) :
    respond arguments around environment =
      .completed ((Settings.ofWords action before others).work data).output
        ((Settings.ofWords action before others).records environment source.reading ++
          (Settings.ofWords action before others).records environment
            ((Settings.ofWords action before others).work data).events)
        ((Settings.ofWords action before others).work data).failure := by
  obtain ⟨behind, line, only, rest⟩ := line
  -- from here on the place occurs only in how the run ends; the settings are the other words'
  subst rest
  have together := goTogether_of_without onceBefore only onceBehind
  have ends := Settings.ends_of_gives (source_ofWords action before only named) gives
  rw [respond_of_line line together, Settings.outcome_of_ends ends, Outcome.response_eq,
    Settings.records_append, ofWords_eq only rfl]
  rfl

theorem respond_of_oversized (denies : source.Denies around .oversized) :
    respond arguments around environment =
      .completed "" ((Settings.ofWords action before others).records environment source.reading)
        (some .oversized) := by
  obtain ⟨behind, line, only, rest⟩ := line
  subst rest
  have together := goTogether_of_without onceBefore only onceBehind
  have ends := Settings.ends_of_oversized (source_ofWords action before only named) denies
  rw [respond_of_line line together, Settings.outcome_of_ends ends, ofWords_eq only rfl]
  rfl

end Exchange

/-- Command lines that give the same bytes in hexadecimal, in a file and on standard input, and
besides have the same words, are answered with the same text and the same failure, and with the same
records behind the one of reading an input. Bytes that are too many for a configuration are refused
from either input with nothing but that record. -/
theorem respond_sources {action : Action} {before others : List Word} {data : List UInt8}
    {path : String} {hexArguments fileArguments dashArguments : List String}
    {fileAround dashAround : Surroundings}
    (onceBefore : (before.map Word.kind).Nodup) (onceBehind : (others.map Word.kind).Nodup)
    (hexLine : LineFrom action before others (.hex (Hex.render data)) hexArguments)
    (fileLine : LineFrom action before others (.input path) fileArguments)
    (dashLine : LineFrom action before others (.input "-") dashArguments)
    (noDash : path ≠ "-")
    (file : fileAround.openPath path = .ok { bytes := data })
    (standardInput : dashAround.standardInput = { bytes := data })
    (hexAround : Surroundings) (environment : Environment) :
    (data.length ≤ greatestInput → ∃ output records failure,
      respond hexArguments hexAround environment = .completed output records failure ∧
      respond fileArguments fileAround environment =
        .completed output
          ((Settings.ofWords action before others).records environment [.readingFile path] ++
            records)
          failure ∧
      respond dashArguments dashAround environment =
        .completed output
          ((Settings.ofWords action before others).records environment [.readingStandardInput] ++
            records)
          failure) ∧
    (greatestInput < data.length →
      respond fileArguments fileAround environment =
        .completed ""
          ((Settings.ofWords action before others).records environment [.readingFile path])
          (some .oversized) ∧
      respond dashArguments dashAround environment =
        .completed ""
          ((Settings.ofWords action before others).records environment [.readingStandardInput])
          (some .oversized)) := by
  have fileNamed : (Word.input path).source? = some (.file path) := by
    simp only [Word.source?, if_neg noDash]
  have dashNamed : (Word.input "-").source? = some .standardInput := rfl
  constructor
  · intro fits
    have stream : ByteStream.Gives { bytes := data } data := .ended rfl fits
    have dashGives : Source.Gives dashAround .standardInput data := by
      rw [← standardInput] at stream
      exact .standardInput stream
    exact ⟨_, _, _,
      respond_of_gives onceBefore onceBehind hexLine rfl environment
        (.hex (Hex.parse_render data)),
      respond_of_gives onceBefore onceBehind fileLine fileNamed environment (.file file stream),
      respond_of_gives onceBefore onceBehind dashLine dashNamed environment dashGives⟩
  · intro long
    have stream : ByteStream.Denies { bytes := data } .oversized := .oversized long
    have dashDenies : Source.Denies dashAround .standardInput .oversized := by
      rw [← standardInput] at stream
      exact .standardInput stream
    exact ⟨respond_of_oversized onceBefore onceBehind fileLine fileNamed environment
        (.file file stream),
      respond_of_oversized onceBefore onceBehind dashLine dashNamed environment dashDenies⟩

/-- Two bytes given in three ways with the record of reading them, and the bytes of a file that are
one too many. -/
theorem respond_sources_twoBytes :
    (∃ output records failure,
      respond ["--loglevel=debug", "esds", "--hex=12 10"] .empty { time := "" } =
        .completed output records failure ∧
      respond ["--loglevel=debug", "esds", "a"]
        { Surroundings.empty with openPath := fun _ => .ok { bytes := [0x12, 0x10] } }
        { time := "" } =
          .completed output (["[ DEBUG mp4ascd::cli] Reading AudioSpecificConfig from a\n"] ++
            records) failure ∧
      respond ["--loglevel=debug", "esds", "-"]
        { Surroundings.empty with standardInput := { bytes := [0x12, 0x10] } } { time := "" } =
          .completed output (["[ DEBUG mp4ascd::cli] Reading AudioSpecificConfig from stdin\n"] ++
            records) failure) ∧
    respond ["--loglevel=debug", "esds", "a"]
      { Surroundings.empty with
        openPath := fun _ => .ok { bytes := List.replicate 65537 0x12 } }
      { time := "" } =
        .completed "" ["[ DEBUG mp4ascd::cli] Reading AudioSpecificConfig from a\n"]
          (some .oversized) := by
  have verbosity : Word.Spelled (.verbosity .debug) ["--loglevel=debug"] :=
    @Word.Spelled.joined _ "loglevel" "debug" rfl
  have hex : ∀ data, Word.Spelled (.hex (Hex.render data)) ["--hex=" ++ Hex.render data] :=
    fun data => @Word.Spelled.joined _ "hex" (Hex.render data) rfl
  have front : SpelledAll [.verbosity .debug] ["--loglevel=debug"] := .cons verbosity .nil
  have globals : ∀ word ∈ [Word.verbosity .debug], word.isGlobal := by decide
  have hexLine : ∀ data, LineFrom .esds [.verbosity .debug] [] (.hex (Hex.render data))
      ["--loglevel=debug", "esds", "--hex=" ++ Hex.render data] := by
    intro data
    have spelled : SpelledAll [.hex (Hex.render data)] ["--hex=" ++ Hex.render data] :=
      .cons (hex data) .nil
    exact ⟨[.hex (Hex.render data)],
      ⟨globals, fun word member => List.mem_singleton.mp member ▸ rfl, _, _, rfl, front,
        .unmarked spelled⟩, rfl, rfl⟩
  have inputLine : ∀ path, path ≠ "" → Shape.ofArgument path = .plain path →
      LineFrom .esds [.verbosity .debug] [] (.input path) ["--loglevel=debug", "esds", path] := by
    intro path filled plain
    exact ⟨[.input path], .of_input .esds globals front filled plain, rfl, rfl⟩
  have agree : ∀ data, _ := fun data =>
    @respond_sources .esds [.verbosity .debug] [] data "a" _ _ _
      { Surroundings.empty with openPath := fun _ => .ok { bytes := data } }
      { Surroundings.empty with standardInput := { bytes := data } }
      (by decide) (by decide) (hexLine data) (inputLine "a" (by decide) (by decide))
      (inputLine "-" (by decide) (by decide)) (by decide) rfl rfl .empty { time := "" }
  have fileRecord : (Settings.ofWords .esds [.verbosity .debug] []).records { time := "" }
      [.readingFile "a"] = ["[ DEBUG mp4ascd::cli] Reading AudioSpecificConfig from a\n"] := by
    decide +kernel
  have dashRecord : (Settings.ofWords .esds [.verbosity .debug] []).records { time := "" }
      [.readingStandardInput] =
        ["[ DEBUG mp4ascd::cli] Reading AudioSpecificConfig from stdin\n"] := by
    decide +kernel
  simp only [fileRecord, dashRecord] at agree
  have tooMany : greatestInput < (List.replicate 65537 (0x12 : UInt8)).length := by
    rw [List.length_replicate]
    decide
  exact ⟨(agree [0x12, 0x10]).1 (by decide), ((agree (List.replicate 65537 0x12)).2 tooMany).1⟩

end AacConfig.Command
