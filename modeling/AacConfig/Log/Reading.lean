import AacConfig.Log.Line
import AacConfig.Text.Pieces

/-!
# Reading records for programs

A record for programs says when something happened, how severe it is and what
it was. A reader of a log takes an object from each of its lines, and every
line has to be ended.
-/

namespace AacConfig.Log

/-- What a line of a log says. -/
structure Record where
  time : String
  severity : Severity
  message : String
deriving Repr, DecidableEq

/-- The line of a record for programs. -/
def Record.line (record : Record) : String :=
  jsonLine record.time record.severity record.message

/-- The keys of a record and their values, in the order of the keys. -/
def Record.fields (record : Record) : List (String × String) :=
  [("lvl", record.severity.name), ("msg", record.message), ("ts", record.time)]

/-- The text of a log for programs. -/
def logText (records : List Record) : String :=
  String.join (records.map fun record => record.line ++ "\n")

/-- The objects of a log, of which one stands on every line. -/
def readLog? (text : String) : Option (List (List (String × String))) :=
  match (Text.pieces '\n' text.toList).reverse with
  | [] :: lines => lines.reverse.mapM fun line => Json.readObject? (String.ofList line)
  | _ => none

end AacConfig.Log
