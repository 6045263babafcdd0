import DialogScript.Cli.Word

/-!
What a command line asks for. Switches and the file may come in any order; a call for help ends the
reading where it stands, and everything that is left over is a misuse.
-/

namespace DialogScript.Cli

/-- The settings that the switches make. -/
structure Settings where
  json : Bool := false
  symbols : Bool := false
  verbose : Bool := false
  gifDir : Option String := none
  hostData : Option String := none

/-- The settings after a switch with its value. -/
def Settings.set (s : Settings) (switch : Switch) (value : String) : Settings :=
  match switch with
  | .help => s
  | .json => { s with json := true }
  | .symbols => { s with symbols := true }
  | .verbose => { s with verbose := true }
  | .gifDir => { s with gifDir := some value }
  | .hostData => { s with hostData := some value }

/-- What is asked for. -/
inductive Invocation where
  | check (file : String) (settings : Settings)
  | list (file : String)
  | builtins

/-- What has been read of a command's words: the settings, the file if the command still awaits or
has one, and whether something is left over. -/
structure Progress where
  settings : Settings := {}
  awaitsFile : Bool
  file : Option String := none
  leftover : Bool := false

namespace Progress

/-- Takes the file. -/
def withFile (p : Progress) (file : String) : Progress :=
  { p with file := some file, awaitsFile := false }

/-- Leaves a word over. -/
def leaving (p : Progress) : Progress := { p with leftover := true }

/-- Takes a switch with its value; a call for help ends the reading. -/
def take (p : Progress) (switch : Switch) (value : String) : Except Usage Progress :=
  if switch = .help then .error .help
  else .ok { p with settings := p.settings.set switch value }

/-- Takes switches without values. -/
def takeAll (p : Progress) : List Switch → Except Usage Progress
  | [] => .ok p
  | s :: rest => do
    let p ← p.take s ""
    takeAll p rest

/-- Takes the switches that letters stand for. -/
def takeLetters (p : Progress) (known : Spellings) (s : Switch) (letters : List Char) :
    Except Usage Progress := do
  let switches ← Word.expand known s letters
  p.takeAll switches

/-- Reads the words of a command. A divider goes with the file beside it. -/
def read (known : Spellings) (p : Progress) : List Word → Except Usage Progress
  | [] => if p.awaitsFile then .error .misuse else .ok p
  | .plain s :: rest =>
    if p.awaitsFile then
      match rest with
      | .divider :: rest => read known (p.withFile s) rest
      | rest => read known (p.withFile s) rest
    else read known p.leaving rest
  | .divider :: rest => read known (if p.awaitsFile then p else p.leaving) rest
  | .unknown :: rest => read known p.leaving rest
  | .letters s letters :: rest => do
    let p ← p.takeLetters known s letters
    read known p rest
  | .switch s value :: rest =>
    if s.takesValue then
      match value, rest with
      | some v, rest => do
        let p ← p.take s v
        read known p rest
      | none, .plain v :: rest => do
        let p ← p.take s v
        read known p rest
      | none, _ => .error .misuse
    else if value.isSome then .error .misuse
    else do
      let p ← p.take s ""
      read known p rest

/-- What the words of a command ask for. -/
def ask (p : Progress) (verb : Verb) : Invocation :=
  match verb with
  | .check => .check (p.file.getD "") p.settings
  | .list => .list (p.file.getD "")
  | .builtins => .builtins

end Progress

namespace Invocation

/-- Reads the words after a command. -/
def ofVerb (verb : Verb) (leftover : Bool) (args : List String) : Except Usage Invocation := do
  let words ← Word.ofTexts (.ofVerb verb) args
  let p ← Progress.read (.ofVerb verb) { awaitsFile := verb.takesFile, leftover } words
  if p.leftover then .error .misuse else .ok (p.ask verb)

/-- Reads a command line whose command is still to come. -/
def afterWords (leftover : Bool) : List String → Except Usage Invocation
  | [] => .error .misuse
  | word :: rest =>
    if word = "--" then .error .misuse
    else
      match Word.ofText .ofHelp word with
      | .error usage => .error usage
      | .ok (.plain s) =>
        match Verb.ofName? s with
        | some verb => ofVerb verb leftover rest
        | none => .error .misuse
      | .ok (.switch s none) => do
        let _ ← Progress.take { awaitsFile := false } s ""
        afterWords leftover rest
      | .ok (.switch _ (some _)) => .error .misuse
      | .ok (.letters s letters) => do
        let _ ← Progress.takeLetters { awaitsFile := false } .ofHelp s letters
        afterWords leftover rest
      | .ok _ => afterWords true rest

/-- The script and the host data that are asked for, as far as they are given. -/
def paths : Invocation → List String
  | check file settings => file :: settings.hostData.toList
  | list file => [file]
  | builtins => []

/-- What a command line asks for. -/
def ofArguments (args : List String) : Except Usage Invocation := afterWords false args

end Invocation

end DialogScript.Cli
