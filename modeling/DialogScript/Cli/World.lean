import DialogScript.Analysis.Script
import DialogScript.Path
import DialogScript.Tree.Load

/-!
What a run of the command line reads: the script and the host's tables. Files hold plain data.
-/

namespace DialogScript.Cli

/-- What a path leads to: a file that cannot be read as data is malformed, and a path may be too
long to be looked up. -/
inductive Found where
  | nothing
  | tooLong
  | directory
  | malformed
  | file (content : Data)

/-- What surrounds a run: the files, the home directory, the path of host data that is set for all
runs, and the kind of command, if there is one, whose checks find no memory after some steps. -/
structure World where
  find : String → Found
  home : Option String := none
  hostData : Option String := none
  exhausted : Option CommandKind := none
  progress : Command → Session → List Check.Step := fun _ _ => []

/-- Why a run ends without a result. -/
inductive Trouble where
  /-- There is no such script. -/
  | notFound (path : String)
  /-- A path is too long. -/
  | tooLong (path : String)
  /-- A directory stands where a file is read. -/
  | isDirectory (path : String)
  /-- A file does not hold data. -/
  | malformed (path : String)
  /-- A script is refused. -/
  | badScript (e : LoadError)
  /-- Host data is refused. -/
  | badHost (e : HostError)
  /-- Something breaks down. -/
  | broken (b : Breakdown)

namespace Trouble

/-- The message of a trouble that is reported. A breakdown is reported if it is about a value. -/
def message? : Trouble → Except Breakdown String
  | notFound path => .ok ("File not found: " ++ path)
  | tooLong path => .ok ("[Errno 36] File name too long: " ++ Text.quoted path)
  | isDirectory path => .ok ("[Errno 21] Is a directory: " ++ Text.quoted path)
  | malformed path => .ok ("no data in " ++ path)
  | badScript e => .ok e.message
  | badHost e => .ok e.message
  | broken b => if b.family = .value then .ok b.message else .error b

/-- The trouble of a script that cannot be loaded. -/
def ofLoad : LoadFailure → Trouble
  | .refused e => badScript e
  | .broken b => broken b

/-- The trouble of host data that cannot be read. -/
def ofHost : HostFailure → Trouble
  | .refused e => badHost e
  | .broken b => broken b

end Trouble

namespace World

/-- The script in a file. A file that holds nothing is refused. -/
def script (w : World) (file : String) : Except Trouble Script :=
  let path := Path.normalize file
  match w.find path with
  | .nothing => .error (.notFound path)
  | .tooLong => .error (.tooLong path)
  | .directory => .error (.isDirectory path)
  | .malformed => .error (.malformed path)
  | .file .null => .error (.badScript (.emptyFile path))
  | .file data => (Tree.loadScript { file := some path } data).mapError Trouble.ofLoad

/-- The host's tables in a file. -/
def hostOf (w : World) (file : String) : Except Trouble HostConfig :=
  let path := Path.resolve file
  if path.toList.contains '\x00' then .error (.broken .nullCharacter)
  else
    match w.find path with
    | .nothing => .error (.badHost (.notFound path))
    | .tooLong => .error (.tooLong path)
    | .directory => .error (.isDirectory path)
    | .malformed => .error (.malformed path)
    | .file data => (HostConfig.ofFile path data).mapError Trouble.ofHost

/-- A path that is given, an empty one being none. -/
def nonEmpty (path : Option String) : Option String := path.filter (· ≠ "")

/-- The host's tables: from the file that is asked for, else from the one that is set for all runs,
else those that come with the library. Only the path that is set may start at a home directory. -/
def host (w : World) (asked : Option String) : Except Trouble HostConfig :=
  match nonEmpty asked, nonEmpty w.hostData with
  | some path, _ => w.hostOf path
  | none, some path => do
    let path ← (Path.expandHome w.home path).mapError Trouble.broken
    w.hostOf path
  | none, none => .ok .bundled

end World

end DialogScript.Cli
