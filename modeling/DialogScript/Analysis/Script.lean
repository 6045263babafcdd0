import DialogScript.Analysis.Run
import DialogScript.Analysis.Watcher

/-!
Analyzing a script: every block, those of one kind after those of another, and every command in it.
A command that fails is listed and the pass goes on; only a lack of memory ends it early, and then
the watcher index is not built.
-/

namespace DialogScript

/-- A pass over a script: what it has found and bound, the commands that did not pass, by the
places of their blocks and their own, and whether memory has run out. -/
structure Pass where
  session : Session
  invalid : List (Nat × Nat) := []
  aborted : Bool := false

/-- An analyzed script: with its flags, and the pass over it. -/
structure Analysis where
  script : Script
  pass : Pass

/-- Runs a command that stands in a block directly. The diagnostics of a shortage are settled
there. -/
def runTopmost (setting : Setting) (c : Command) (s : Session) : Ran Command Bool :=
  let ran := runCommand setting c s
  match ran.ending with
  | .error (.outOfMemory m) =>
    { ran with session := { ran.session with
        diagnostics := ran.session.diagnostics ++ m.diagnostics } }
  | _ => ran

namespace Pass

/-- The pass after a command that did not pass. -/
def failing (p : Pass) (session : Session) (block place : Nat) : Pass :=
  { p with session, invalid := p.invalid ++ [(block, place)] }

/-- Takes the pass over one command. After a lack of memory it changes nothing. -/
def command (setting : Setting) (block place : Nat) (c : Command) (p : Pass) :
    Except Breakdown (Command × Pass) :=
  if p.aborted then .ok (c, p)
  else
    let ran := runTopmost setting c p.session
    match ran.ending with
    | .ok true => .ok (ran.tree, { p with session := ran.session })
    | .ok false => .ok (ran.tree, p.failing ran.session block place)
    | .error (.outOfMemory _) =>
      .ok (ran.tree, { p.failing ran.session block place with aborted := true })
    | .error (.broken b) => .error b

/-- Takes the pass over the commands of a block from one place on. -/
def commands (setting : Setting) (block place : Nat) (p : Pass) :
    List Command → Except Breakdown (List Command × Pass)
  | [] => .ok ([], p)
  | c :: rest => do
    let (c, p) ← command setting block place c p
    let (rest, p) ← commands setting block (place + 1) p rest
    pure (c :: rest, p)

/-- Takes the pass over the blocks of a kind from one place on. -/
def blocks (setting : Setting) (kind : BlockKind) (place : Nat) (p : Pass) :
    List Block → Except Breakdown (List Block × Pass)
  | [] => .ok ([], p)
  | b :: rest =>
    if b.kind = kind then do
      let (commands, p) ← commands setting place 0 p b.commands
      let (rest, p) ← blocks setting kind (place + 1) p rest
      pure ({ b with commands } :: rest, p)
    else do
      let (rest, p) ← blocks setting kind (place + 1) p rest
      pure (b :: rest, p)

/-- Takes the pass over all blocks, kind after kind. -/
def kinds (setting : Setting) (bs : List Block) (p : Pass) :
    List BlockKind → Except Breakdown (List Block × Pass)
  | [] => .ok (bs, p)
  | kind :: rest => do
    let (bs, p) ← blocks setting kind 0 p bs
    kinds setting bs p rest

/-- The pass with the watcher index built, if it came to its end. -/
def indexed (p : Pass) : Pass :=
  if p.aborted then p
  else { p with session := p.session.withTable SymbolTable.indexWatchers }

end Pass

/-- Analyzes a script on a symbol table. -/
def Script.analyze (setting : Setting) (table : SymbolTable) (script : Script) :
    Except Breakdown Analysis := do
  let (blocks, pass) ← Pass.kinds setting script.blocks { session := { table } } BlockKind.all
  pure ⟨{ script with blocks }, pass.indexed⟩

namespace Analysis

/-- What was found. -/
def diagnostics (a : Analysis) : List Diagnostic := a.pass.session.diagnostics

/-- What was bound. -/
def table (a : Analysis) : SymbolTable := a.pass.session.table

/-- Whether there is an error among the diagnostics. -/
def hasErrors (a : Analysis) : Bool := 0 < Diagnostic.errorCount a.diagnostics

/-- Whether there is a warning among the diagnostics. -/
def hasWarnings (a : Analysis) : Bool := 0 < Diagnostic.warningCount a.diagnostics

end Analysis

end DialogScript
