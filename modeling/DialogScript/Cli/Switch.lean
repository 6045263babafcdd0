/-!
The commands of the command line and their switches. A command that is not known yet has the switch
that asks for help alone.
-/

namespace DialogScript.Cli

/-- The switches. -/
inductive Switch where
  | help | json | symbols | gifDir | hostData | verbose
  deriving DecidableEq, Repr

/-- Whether a switch takes a value. -/
def Switch.takesValue : Switch → Bool
  | .gifDir | .hostData => true
  | _ => false

/-- The commands. -/
inductive Verb where
  | check | list | builtins
  deriving DecidableEq, Repr

namespace Verb

/-- Every command. -/
def all : List Verb := [check, list, builtins]

/-- The word for a command. -/
def name : Verb → String
  | check => "check"
  | list => "list"
  | builtins => "builtins"

/-- The command with a word. -/
def ofName? (s : String) : Option Verb := all.find? (·.name == s)

/-- Whether a command reads a file. -/
def takesFile : Verb → Bool
  | builtins => false
  | _ => true

end Verb

/-- The spellings of the switches that a command knows. -/
abbrev Spellings : Type := List (String × Switch)

namespace Spellings

/-- The spellings of the switch that asks for help. -/
def ofHelp : Spellings := [("-h", .help), ("--help", .help)]

/-- The spellings of a command's switches. -/
def ofVerb : Verb → Spellings
  | .check =>
    ofHelp ++ [("--json", .json), ("--symbols", .symbols), ("--gif-dir", .gifDir),
      ("--host-data", .hostData), ("-v", .verbose), ("--verbose", .verbose)]
  | _ => ofHelp

/-- The switch with a spelling. -/
def switch? (known : Spellings) (word : String) : Option Switch := known.lookup word

/-- The switch with a letter. -/
def letter? (known : Spellings) (c : Char) : Option Switch :=
  known.lookup (String.ofList ['-', c])

/-- The switches whose spelling starts with a text. -/
def startingWith (known : Spellings) (text : String) : List Switch :=
  (known.filter fun e => e.1.startsWith text).map Prod.snd

end Spellings

end DialogScript.Cli
