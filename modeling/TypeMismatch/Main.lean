import TypeMismatch.Session

/-!
# The command line program

Reads the files that the environment and the command line name, sets up the log, runs the command,
and prints what it leaves. Records go to the error output.

Source: `main`, with what it reads and prints.
-/

namespace TypeMismatch
namespace Program

/-- What a path leads to on the disk. -/
def locate (path : String) : IO Located := do
  try
    let bytes ← IO.FS.readBinFile path
    pure (.file bytes.toList)
  catch e =>
    match e with
    | .noFileOrDirectory .. => pure .missing
    | .inappropriateType .. => pure .directory
    | _ => pure .missing

/-- The files that some paths lead to. -/
def readFiles : List String → IO Files
  | [] => pure .none
  | path :: paths => do
    let found ← locate path
    let others ← readFiles paths
    pure { others with
      locate := fun p => if p = Path.ofString path then found else others.locate p }

/-- The configuration file that a command line names. -/
def configurationFile (words : List String) : Option String :=
  match Command.readRequest (words.map some) with
  | .ok r => r.config.join
  | .error _ => none

/-- A record on a line of its own. -/
def recordLine (r : Record) : String :=
  String.ofList (Report.padded ' ' 8 r.level.text.toList) ++ " | " ++ r.logger ++ " | " ++ r.message

/-- Prints what was left, and gives the exit status. -/
def finish (records : List Record) (result : Except Failure Outcome) : IO UInt32 := do
  for r in records do
    IO.eprintln (recordLine r)
  match result with
  | .ok o =>
    IO.print o.output
    IO.eprint o.errors
    pure o.exit.toUInt32
  | .error e =>
    IO.eprintln e.message
    pure 1

/-- Sets up the log as the environment says and runs the command. -/
def run (words : List String) : IO UInt32 := do
  let level ← IO.getEnv "TYPEDIFF_LOG_LEVEL"
  let file ← IO.getEnv "TYPEDIFF_LOG_CONFIG"
  let config := configurationFile words
  let files ← readFiles (file.toList ++ config.toList)
  let r := (Session.start .ample files).step (.setUp true (some level) (some file))
  match r.result with
  | .error e => finish r.records (.error e)
  | .ok _ =>
    let ran := Command.run .ample files r.session.log words
    finish (r.records ++ ran.records) ran.result

end Program
end TypeMismatch

/-- Runs the command. -/
def main (words : List String) : IO UInt32 := TypeMismatch.Program.run words
