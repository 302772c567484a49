import AacConfig.Log.Event
import AacConfig.Text.ControlSequence
import AacConfig.Text.JsonString

/-!
# Log lines

A record is written as one line: for people as time, severity, module and
message, and for programs as a JSON object of severity, message and time. A
message for people may have further lines; they are indented, so that none of
them passes for a record of its own.

The environment of the program has a say in its log as well. It may set a
verbosity for some modules, which then outweighs the one of the command line,
and let only some messages through (`Environment.visible`). It also settles
whether records are coloured. Records without colours are freed from control
sequences, those that a message brings along included (`LineFormat.record`).
-/

namespace AacConfig.Log

/-- How records are written. -/
inductive LineFormat
  | plain
  | json
deriving Repr, DecidableEq, Inhabited

/-- The name of a line format. -/
def LineFormat.name : LineFormat → String
  | plain => "plain"
  | json => "json"

/-- The line format of a given name. -/
def LineFormat.ofName? : String → Option LineFormat
  | "plain" => some plain
  | "json" => some json
  | _ => none

/-- What a log depends on besides the command line. -/
structure Environment where
  /-- The time that records show. -/
  time : String
  /-- The verbosity that is set for the module of a path, if one is. -/
  verbosity? : String → Option Verbosity := fun _ => none
  /-- Whether a message is let through. -/
  letsThrough : String → Bool := fun _ => true
  /-- Whether records are coloured. -/
  coloured : Bool := false

namespace Environment

/-- The verbosity for the records of an event, where the command line sets one for all. -/
def verbosityOf (environment : Environment) (verbosity : Verbosity) (event : Event) : Verbosity :=
  (environment.verbosity? event.target).getD verbosity

/-- The events whose records are written, in their order. -/
def visible (environment : Environment) (verbosity : Verbosity) (events : List Event) :
    List Event :=
  events.filter fun event =>
    (environment.verbosityOf verbosity event).admits event.severity &&
      environment.letsThrough event.message

/-- A text between the codes that start a style and end it, where there are colours. -/
def styled (environment : Environment) (style text : String) : String :=
  if environment.coloured then style ++ text ++ "\x1b[0m" else text

/-- A part of a record that stands back. -/
def subtle (environment : Environment) (text : String) : String :=
  environment.styled "\x1b[90m" text

end Environment

/-- The codes that start the style of a severity. -/
def Severity.style : Severity → String
  | error => "\x1b[1m\x1b[31m"
  | warn => "\x1b[33m"
  | info => "\x1b[32m"
  | debug => "\x1b[34m"
  | trace => "\x1b[36m"

/-- The name of a severity with blanks behind it, so that all are of one length. -/
def Severity.column (severity : Severity) : String :=
  String.ofList (severity.name.toList.rightpad 5 ' ')

/-- A record for programs: an object of severity, message and time. -/
def jsonLine (time : String) (severity : Severity) (message : String) : String :=
  Json.renderObject [("lvl", severity.name), ("msg", message), ("ts", time)]

/-- The indentation of the further lines of a message. -/
def indentation : List Char := [' ', ' ', ' ', ' ']

/-- A message with its further lines indented. -/
def indented (message : String) : String :=
  String.ofList (message.toList.flatMap fun character =>
    if character = '\n' then '\n' :: indentation else [character])

/-- What stands in front of a message for people. -/
def plainHead (environment : Environment) (severity : Severity) (target : String) : String :=
  environment.subtle "[" ++ environment.time ++ " " ++
    environment.styled severity.style severity.column ++ " " ++ target ++
    environment.subtle "]" ++ " "

/-- A record for people. -/
def plainLine (environment : Environment) (event : Event) : String :=
  plainHead environment event.severity event.target ++ indented event.message

/-- The line of an event. -/
def LineFormat.line (format : LineFormat) (environment : Environment) (event : Event) : String :=
  match format with
  | plain => plainLine environment event
  | json => jsonLine environment.time event.severity event.message

/-- What is written for an event: its line and a line break. Without colours it is what a terminal
shows of them, where a string or command that a message leaves open takes in the line break as
well. -/
def LineFormat.record (format : LineFormat) (environment : Environment) (event : Event) : String :=
  let written := format.line environment event ++ "\n"
  if environment.coloured then written else Text.shownText written

end AacConfig.Log
