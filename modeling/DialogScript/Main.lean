import DialogScript.Cli.Report
import DialogScript.Data.Json.Reader

/-!
The program. Scripts and host data are files of JSON.
-/

namespace DialogScript

/-- The variable that names host data for all runs. -/
def hostDataVariable : String := "DIALOGSCRIPT_HOST_DATA"

/-- How the program is called. -/
def usageText : String :=
  Cli.lines
    ["usage: dialogscript check FILE [--json] [--symbols] [--gif-dir DIR] [--host-data FILE] [-v]",
      "       dialogscript list FILE", "       dialogscript builtins"]

/-- The data in the text of a file; blank text holds null. -/
def readContent (text : String) : Cli.Found :=
  if text.toList.all Data.Json.isSpace then .file .null
  else
    match Data.Json.read? text with
    | some data => .file data
    | none => .malformed

/-- The system's code for a directory that is read as a file. -/
def isDirectoryCode : UInt32 := 21

/-- The system's code for a path that is too long. -/
def tooLongCode : UInt32 := 36

/-- Looks where a path leads to. -/
def lookAt (path : String) : IO Cli.Found := do
  match ← (IO.FS.readFile path).toBaseIO with
  | .ok text => return readContent text
  | .error (.inappropriateType _ code _) =>
    return if code = isDirectoryCode then .directory else .nothing
  | .error (.invalidArgument _ code _) =>
    return if code = tooLongCode then .tooLong else .nothing
  | .error _ => return .nothing

/-- Looks at all paths that a run may read, each in the forms in which it is asked for. -/
def lookAtAll (paths : List String) : IO (List (String × Cli.Found)) :=
  (paths.flatMap fun p => [Path.normalize p, Path.resolve p]).mapM fun p => do
    let found ← lookAt p
    return (p, found)

/-- Runs what is asked for; the exit code. -/
def runInvocation (invocation : Cli.Invocation) : IO UInt32 := do
  let home ← IO.getEnv "HOME"
  let hostData ← IO.getEnv hostDataVariable
  let expanded := hostData.bind fun p => (Path.expandHome home p).toOption
  let known ← lookAtAll (invocation.paths ++ expanded.toList)
  let world : Cli.World := { find := fun p => (known.lookup p).getD .nothing, home, hostData }
  let outcome := Cli.run world invocation
  match outcome with
  | .ok report =>
    IO.print report.output
    IO.eprint report.troubles
  | .error b => IO.eprintln b.message
  return (Cli.exitCode outcome).toUInt32

end DialogScript

open DialogScript in
/-- Reads the command line and runs it. -/
def main (args : List String) : IO UInt32 := do
  match Cli.Invocation.ofArguments args with
  | .ok invocation => runInvocation invocation
  | .error .help =>
    IO.print usageText
    return 0
  | .error .misuse =>
    IO.eprint usageText
    return 2
