import AacConfig.Command.Run
import AacConfig.Log.Clock
import Std.Time.DateTime.Timestamp

/-!
# The program

Gathers what is around a run, and writes what the run answers: its text on
standard output, its records and its failure on standard error.
-/

namespace AacConfig.Main

open Command

/-- The reason that the system gives for refusing a path. -/
def systemError (reason : IO.Error) : SystemError :=
  match reason with
  | .noFileOrDirectory .. => .notFound
  | .inappropriateType _ 20 _ => .notDirectory
  | .inappropriateType _ 21 _ => .isDirectory
  | .permissionDenied _ number description
  | .inappropriateType _ number description
  | .invalidArgument _ number description
  | .resourceExhausted _ number description
  | .noSuchThing _ number description
  | .otherError number description => .other description number.toNat
  | unexpected => .other (toString unexpected) 0

/-- The part of a stream that a run reads. An error stands where the reading of that part ended. -/
def streamOf (handle : IO.FS.Stream) : IO ByteStream := do
  try
    let contents ← handle.read (USize.ofNat (greatestInput + 1))
    return { bytes := contents.toList }
  catch reason =>
    return { bytes := [], ending := some (systemError reason) }

/-- What opening a path gives. -/
def openPath (path : String) : IO (Except SystemError ByteStream) := do
  try
    let handle ← IO.FS.Handle.mk path .read
    return .ok (← streamOf (IO.FS.Stream.ofHandle handle))
  catch reason =>
    -- what cannot be opened here because it is a directory fails with its first byte
    match systemError reason with
    | .isDirectory => return .ok { bytes := [], ending := some .isDirectory }
    | refusal => return .error refusal

/-- What a run with some settings may need of what is around it. -/
def surroundings (settings : Settings) : IO Surroundings := do
  let missing : String → Except SystemError ByteStream := fun _ => .error .notFound
  match settings.source.source [] with
  | .ok .standardInput _ =>
      return { standardInput := ← streamOf (← IO.getStdin), openPath := missing }
  | .ok (.file path) _ =>
      let found ← openPath path
      return { standardInput := { bytes := [] }, openPath := fun _ => found }
  | _ => return { standardInput := { bytes := [] }, openPath := missing }

/-- How the program is used. -/
def usageText : String :=
  "Usage: mp4ascd [OPTIONS] <info|esds> [OPTIONS] <INPUT|--hex HEX>\n"

/-- The text of a notice. -/
def noticeText : Notice → String
  | .usage .. => usageText
  | .version _ => "mp4ascd 0.1.0\n"

/-- Writes an answer and gives its exit code. -/
def write (response : Response) : IO UInt32 := do
  let errors ← IO.getStderr
  match response with
  | .usageError => errors.putStr usageText
  | .told notice => (← IO.getStdout).putStr (noticeText notice)
  | .completed output records failure =>
      for record in records do
        errors.putStr record
      (← IO.getStdout).putStr output
      match failure with
      | some reason => errors.putStrLn s!"Error: {reason.message}"
      | none => pure ()
  return UInt32.ofNat response.exitCode

end AacConfig.Main

open AacConfig AacConfig.Command in
/-- Runs the program on its arguments. -/
def main (arguments : List String) : IO UInt32 := do
  let around ←
    match Invocation.ofArguments arguments with
    | .run settings => Main.surroundings settings
    | _ => pure { standardInput := { bytes := [] }, openPath := fun _ => .error .notFound }
  let seconds := (← Std.Time.Timestamp.now).toSecondsSinceUnixEpoch.val.toNat
  Main.write (respond arguments around { time := Log.timeText seconds })
