import AacConfig.Command.Word

/-!
# Invocations

The arguments of a run come in two parts, the words before the action and the
words behind it. A word may stand once in each part, and where it stands in
both, the one behind the action counts; a switch counts from either part.
Exactly one word names the configuration.

The arguments are read from left to right. Asking how the program is used, or
for its version, ends the reading at once, so it is answered unless a fault
comes before it. That no word names the configuration, or that two do, is no
fault of an argument and only seen at the end.
-/

namespace AacConfig.Command

/-- Where the configuration comes from, as the words say. -/
structure SourceWords where
  /-- The configuration in hexadecimal. -/
  hex : Option String := none
  /-- The file that holds the configuration. -/
  input : Option String := none
deriving Repr, DecidableEq

/-- What an accepted command line asks for. -/
structure Settings where
  /-- What to do. -/
  action : Action
  /-- Where the configuration comes from. -/
  source : SourceWords
  /-- How a report is written. -/
  reportFormat : ReportFormat := .plain
  /-- Whether a refused configuration is fatal. -/
  strict : Bool := false
  /-- How much is logged. -/
  verbosity : Log.Verbosity := .info
  /-- How records are written. -/
  lineFormat : Log.LineFormat := .plain
deriving Repr, DecidableEq

/-- A part of the program whose use can be asked for. -/
inductive Topic
  /-- The whole program. -/
  | program
  /-- An action. -/
  | action (action : Action)
  /-- Asking for the use of a part by its name. -/
  | help
deriving Repr, DecidableEq

/-- The part of a given name. -/
def Topic.ofName? (name : String) : Option Topic :=
  if name = "help" then some help else (Action.ofName? name).map action

/-- The part that arguments at a place belong to. -/
def Place.topic : Place → Topic
  | before => .program
  | behind action => .action action

/-- What the program says of itself. -/
inductive Notice
  /-- How a part of it is used, in short or in full. -/
  | usage (topic : Topic) (full : Bool)
  /-- Which version it is, in short or in full. -/
  | version (full : Bool)
deriving Repr, DecidableEq

/-- What an argument of a given look asks for at a place. -/
def Shape.notice? (shape : Shape) (place : Place) : Option Notice :=
  match shape, place with
  | long "help" none, _ => some (.usage place.topic true)
  | short ('h' :: _), _ => some (.usage place.topic false)
  | long "version" none, .before => some (.version true)
  | short ('V' :: _), .before => some (.version false)
  | _, _ => none

/-- The use of a part that is asked for by its name, or of the program without a name. -/
def Notice.ofNames? : List String → Option Notice
  | [] => some (.usage .program true)
  | [name] => (Topic.ofName? name).map fun topic => .usage topic true
  | _ => none

/-- The first argument behind an action that asks for something, and the arguments in front of it.
Behind two dashes no argument does. -/
def noticeBehind? (action : Action) : List String → Option (List String × Notice)
  | [] => none
  | argument :: rest =>
      match (Shape.ofArgument argument).notice? (.behind action) with
      | some notice => some ([], notice)
      | none =>
          if argument = "--" then none
          else (noticeBehind? action rest).map fun (front, notice) => (argument :: front, notice)

/-- What a command line comes to. -/
inductive Invocation
  /-- The arguments do not form an invocation. -/
  | refused
  /-- The program is asked about itself. -/
  | told (notice : Notice)
  /-- The action is carried out. -/
  | run (settings : Settings)
deriving Repr, DecidableEq

/-- The invocation that is answered with a notice, if there is one. -/
def Invocation.ofNotice? : Option Notice → Invocation
  | some notice => told notice
  | none => refused

/-- Whether no two words are of one kind. -/
def distinctKinds (words : List Word) : Bool :=
  decide (words.map Word.kind).Nodup

/-- The settings of the words before and behind an action, if they go together. -/
def Settings.ofWords? (action : Action) (before behind : List Word) : Option Settings :=
  let source : SourceWords :=
    { hex := behind.findSome? Word.hex?, input := behind.findSome? Word.input? }
  let all := behind ++ before
  if distinctKinds behind && (source.hex.isSome != source.input.isSome) then
    some
      { action
        source
        reportFormat := (behind.findSome? Word.reportFormat?).getD .plain
        strict := all.contains .strict
        verbosity := (all.findSome? Word.verbosity?).getD .info
        lineFormat := (all.findSome? Word.lineFormat?).getD .plain }
  else none

/-- The invocation of the arguments behind an action. Where they are not words alone, a notice is
given if those in front of the one that asks for it are, and are of different kinds. -/
def Invocation.ofAction (before : List Word) (action : Action) (arguments : List String) :
    Invocation :=
  match words? action arguments with
  | some behind =>
      match Settings.ofWords? action before behind with
      | none => refused
      | some settings => run settings
  | none =>
      match noticeBehind? action arguments with
      | none => refused
      | some (front, notice) =>
          if (words? action front).any distinctKinds then told notice else refused

/-- The invocation of the arguments from the name of an action on. -/
def Invocation.ofName (before : List Word) (name : String) (rest : List String) : Invocation :=
  match Action.ofName? name with
  | some action => ofAction before action rest
  | none => if name = "help" then ofNotice? (Notice.ofNames? rest) else refused

/-- Whether an option that may stand before the action has a value. -/
def hasGlobalValue (name : String) : Bool :=
  name == "loglevel" || name == "log-format"

/-- The invocation where an option before the action is at fault. A value in an argument of its own
is only looked at with the next option, so a notice that is asked for in between is given. -/
def Invocation.ofFault (name : String) (value : Option String) (rest : List String) : Invocation :=
  match value, rest with
  | none, text :: action :: others =>
      if hasGlobalValue name && Shape.ofArgument text == .plain text then
        match ofName [] action others with
        | told notice => told notice
        | _ => refused
      else refused
  | _, _ => refused

/-- The invocation of the arguments that follow some words before the action. -/
def Invocation.ofRest (before : List Word) (arguments : List String) : Invocation :=
  match arguments with
  | [] => refused
  | argument :: rest =>
      match Shape.ofArgument argument with
      | .separator => refused
      | .short letters => ofNotice? ((Shape.short letters).notice? .before)
      | .plain text => ofName before text rest
      | .long name value =>
          match _found : Word.ofLong? .before name value rest with
          | some (word, behind) =>
              if distinctKinds (before ++ [word]) then ofRest (before ++ [word]) behind
              else ofFault name value rest
          | none =>
              match (Shape.long name value).notice? .before with
              | some notice => told notice
              | none => ofFault name value rest
termination_by arguments.length
decreasing_by
  have shorter := Word.length_of_ofLong? _found
  simp only [List.length_cons]
  omega

/-- The invocation of a command line. -/
def Invocation.ofArguments (arguments : List String) : Invocation :=
  ofRest [] arguments

-- a notice is given in spite of a value that is not looked at before
example : Invocation.ofArguments ["--loglevel", "loud", "help", "info"] =
    .told (.usage (.action .info) true) := by
  cbv

-- two inputs are a fault of the second one, two sources are not
example : Invocation.ofArguments ["info", "a", "b", "--help"] = .refused ∧
    Invocation.ofArguments ["info", "a", "--hex=1210", "-h"] =
      .told (.usage (.action .info) false) := by
  exact ⟨by cbv, by cbv⟩

end AacConfig.Command
