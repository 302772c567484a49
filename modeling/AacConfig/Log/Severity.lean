/-!
# Severities of log records

A record has one of five severities. A verbosity names the least severe
records that are still written, or turns the log off.
-/

namespace AacConfig.Log

/-- How severe a log record is. -/
inductive Severity
  | error
  | warn
  | info
  | debug
  | trace
deriving Repr, DecidableEq

/-- The name of a severity as it stands in a record. -/
def Severity.name : Severity → String
  | error => "ERROR"
  | warn => "WARN"
  | info => "INFO"
  | debug => "DEBUG"
  | trace => "TRACE"

/-- The position of a severity, the most severe first. -/
def Severity.rank : Severity → Nat
  | error => 1
  | warn => 2
  | info => 3
  | debug => 4
  | trace => 5

/-- How much of the log is written. -/
inductive Verbosity
  | off
  | error
  | warn
  | info
  | debug
  | trace
deriving Repr, DecidableEq, Inhabited

namespace Verbosity

/-- The rank of the least severe records that are written. -/
def rank : Verbosity → Nat
  | off => 0
  | error => 1
  | warn => 2
  | info => 3
  | debug => 4
  | trace => 5

/-- Whether records of a severity are written. -/
def admits (verbosity : Verbosity) (severity : Severity) : Bool :=
  severity.rank ≤ verbosity.rank

/-- The name of a verbosity. -/
def name : Verbosity → String
  | off => "off"
  | error => "error"
  | warn => "warn"
  | info => "info"
  | debug => "debug"
  | trace => "trace"

/-- The verbosity of a given name. -/
def ofName? : String → Option Verbosity
  | "off" => some off
  | "error" => some error
  | "warn" => some warn
  | "info" => some info
  | "debug" => some debug
  | "trace" => some trace
  | _ => none

end Verbosity

end AacConfig.Log
