import DialogScript.Cli.Invocation
import DialogScript.Cli.World
import DialogScript.Data.Json.Writer
import DialogScript.Tree.Listing
import DialogScript.Value.Display

/-!
What a run of the command line prints: the diagnostics of a script and its symbols, as text or for
tools, the commands of a script, or the built-in functions.
-/

namespace DialogScript.Cli

/-- What a run leaves: its exit code, what it printed, and the troubles it reported. -/
structure Report where
  exit : Nat
  output : String := ""
  troubles : String := ""

/-- Lines of text, each ended. -/
def lines (texts : List String) : String := String.join (texts.map (· ++ "\n"))

/-! ## Checking a script -/

/-- A script as it was checked. -/
structure Checked where
  file : String
  analysis : Analysis

/-- Checks a script. A base directory that is not empty is bound before. -/
def checkScript (w : World) (file : String) (settings : Settings) : Except Trouble Checked := do
  let script ← w.script file
  let host ← w.host settings.hostData
  let table : SymbolTable := match World.nonEmpty settings.gifDir with
    | some directory => (SymbolTable.declare {} host.baseDirectory (.string directory)).2
    | none => {}
  let setting := { host, exhausted := w.exhausted, progress := w.progress }
  let analysis ← (script.analyze setting table).mapError Trouble.broken
  pure { file, analysis }

namespace Checked

/-- The symbols in the order of their keys. -/
def symbols (c : Checked) : Except Breakdown (List (String × Value)) :=
  (·.mergeSort fun a b => a.1 ≤ b.1) <$> c.analysis.table.flatten

/-- The number of commands that did not pass. -/
def invalidCount (c : Checked) : Nat := c.analysis.pass.invalid.length

/-- Whether the pass came to its end. -/
def completed (c : Checked) : Bool := !c.analysis.pass.aborted

/-- Zero if the pass came to its end and every command passed. -/
def exitCode (c : Checked) : Nat :=
  if c.completed && c.analysis.pass.invalid.isEmpty then 0 else 1

/-- The symbols as an entry of data. -/
def symbolEntries (c : Checked) : Except Breakdown (List (String × Data)) :=
  (fun symbols => [("symbols", .dict (symbols.map fun e => (e.1, e.2.toData)))]) <$> c.symbols

/-- The result as data, for tools. -/
def toData (c : Checked) (withSymbols : Bool) : Except Breakdown Data := do
  let diagnostics ← c.analysis.diagnostics.mapM Diagnostic.toData
  let symbols ← (if withSymbols then c.symbolEntries else .ok [])
  pure (.dict ([("success", .bool c.completed), ("invalid_commands", .int c.invalidCount),
    ("diagnostics", .list diagnostics)] ++ symbols))

/-- The result as the text of data. -/
def json (c : Checked) (withSymbols : Bool) : Except Breakdown String := do
  let data ← c.toData withSymbols
  if data.isWritable then .ok (Data.Json.indented 0 data ++ "\n") else .error .longIntegerText

/-- The line that sums up the commands. -/
def verdict (c : Checked) : String :=
  let total := toString c.analysis.script.commandCount
  let share := toString c.invalidCount ++ " of " ++ total ++ " command(s) invalid"
  if !c.completed then "Analysis aborted: " ++ share
  else if 0 < c.invalidCount then "Analysis failed: " ++ share
  else "OK: " ++ Path.name c.file ++ " - " ++ total ++ " command(s), no errors"

/-- The line that counts the warnings, if there are any. -/
def warningLine (c : Checked) : List String :=
  let count := Diagnostic.warningCount c.analysis.diagnostics
  if count = 0 then [] else ["  " ++ toString count ++ " warning(s)"]

/-- A symbol with its type. -/
def symbolLine (e : String × Value) : Except Breakdown String :=
  let data := e.2.toData
  if data.isWritable then .ok ("  " ++ e.1 ++ ": " ++ e.2.type.name ++ " = " ++ data.quoted)
  else .error .longIntegerText

/-- The lines of the symbols. -/
def symbolLines (c : Checked) : Except Breakdown (List String) := do
  let symbols ← c.symbols
  let shown ← symbols.mapM symbolLine
  pure ("\nSymbols:" :: shown)

/-- The diagnostics that are shown: all, or all but the notes. -/
def shown (c : Checked) (verbose : Bool) : List Diagnostic :=
  c.analysis.diagnostics.filter fun d => verbose || d.severity != .info

/-- The result as text. -/
def text (c : Checked) (settings : Settings) : Except Breakdown String := do
  let diagnostics ← (c.shown settings.verbose).mapM Diagnostic.text
  let symbols ← (if settings.symbols then c.symbolLines else .ok [])
  pure (lines (diagnostics ++ [c.verdict] ++ c.warningLine ++ symbols))

/-- The report of a check. It breaks down where a place or an integer cannot be shown. -/
def report (c : Checked) (settings : Settings) : Except Breakdown Report := do
  let output ← (if settings.json then c.json settings.symbols else c.text settings)
  pure { exit := c.exitCode, output }

end Checked

/-! ## Listing commands -/

/-- What a command is about, for the list: its target, its table or its name. -/
def label : Command → Except Breakdown String
  | .action _ (.select s) =>
    match s.target with
    | .unspecified => .error .noTarget
    | .one name _ | .many name _ _ => .ok name
  | .action _ (.table t) => .ok t.identifier
  | .action _ (.declare d) => .ok d.name
  | .action _ (.showParam p) => .ok p.name
  | .action _ (.checkbox p) => .ok p.name
  | .action _ (.userInput p) => .ok p.name
  | .action _ (.radio p) => .ok p.name
  | .action _ (.invalidate name) => .ok name
  | _ => .ok ""

/-- The line number of a command, where its place is known. -/
def lineNote (c : Command) : Except Breakdown String :=
  match c.span with
  | none => .ok ""
  | some (.between start _) => ("  line " ++ ·) <$> Number.text start.line
  | some (.unread data) => if data.isFilled then Span.noStart data else .ok ""

/-- A text with spaces behind it up to a width. -/
def padded (width : Nat) (s : String) : String :=
  s ++ String.ofList (List.replicate (width - s.length) ' ')

/-- The line of a command. -/
def commandLine (c : Command) : Except Breakdown String := do
  let target ← label c
  let note ← lineNote c
  let kind := (c.kind?.map CommandKind.name).getD ""
  pure ("  " ++ padded 32 kind ++ " " ++ target ++ note)

/-- The lines of a block. -/
def blockLines (b : Block) : Except Breakdown (List String) := do
  let commands ← b.commands.mapM commandLine
  pure ((b.kind.name ++ ": " ++ toString b.commands.length ++ " command(s)") :: commands)

/-- The report of a list: the blocks in the order of analysis. -/
def listReport (script : Script) : Except Breakdown Report := do
  let blocks := BlockKind.all.flatMap fun kind => script.blocks.filter (·.kind == kind)
  let sections ← blocks.mapM blockLines
  pure { exit := 0, output := lines sections.flatten }

/-! ## Built-in functions -/

/-- A function with its parameters and the type of its result. -/
def builtinLine (f : Builtin) : String :=
  let params := f.signature.params.map fun p => p.1 ++ ": " ++ p.2.name
  f.name ++ "(" ++ ", ".intercalate params ++ ") -> " ++ f.signature.returns.name

/-- The report of the built-in functions, in the order of their names. -/
def builtinReport : Report :=
  let sorted := Builtin.all.mergeSort fun a b => a.name ≤ b.name
  { exit := 0, output := lines (sorted.map builtinLine) }

/-! ## Running -/

/-- The report of a run that meets trouble. -/
def troubleReport (t : Trouble) : Except Breakdown Report := do
  let message ← t.message?
  pure { exit := 1, troubles := lines ["Error: " ++ message] }

/-- Does what is asked for. -/
def run (w : World) : Invocation → Except Breakdown Report
  | .check file settings =>
    match checkScript w file settings with
    | .ok c => c.report settings
    | .error t => troubleReport t
  | .list file =>
    match w.script file with
    | .ok script => listReport script
    | .error t => troubleReport t
  | .builtins => .ok builtinReport

/-- The exit code of what a run comes to: a breakdown ends it with one. -/
def exitCode : Except Breakdown Report → Nat
  | .ok report => report.exit
  | .error _ => 1

end DialogScript.Cli
