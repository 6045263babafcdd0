import DialogScript.Check.Basic
import DialogScript.Tree.Command

/-!
How the run of a command ends. It passes, or it fails with a problem and the pass goes on, or the
whole pass stops: memory runs out, or something breaks down. Every ending closes the command's
journal and leaves the command, and all but the first take back what the command wrote.
-/

namespace DialogScript

/-- A step of a check: a write, a remark about the command, or a type that is found, which may warn
of a path. -/
inductive Check.Step where
  | write (w : SymbolTable.Write)
  | remark (r : Remark)
  | typeOf (e : Expr)

/-- Takes a step. A type that is found is not used. -/
def Check.Step.take : Check.Step → Check Unit
  | write w => Check.write w
  | remark r => Check.remark r
  | typeOf e => (fun _ => ()) <$> Check.typeOf e

/-- What an analysis runs with: the host's tables, and the kind of command, if there is one, whose
checks find no memory. They find out after some steps, which may depend on the command and on all
that was found and bound before it. -/
structure Setting where
  host : HostConfig := .bundled
  exhausted : Option CommandKind := none
  progress : Command → Session → List Check.Step := fun _ _ => []

/-- A lack of memory on its way out of nested commands: the kind of the command it arose in, the
innermost place that is known, and the number of commands that it has failed. -/
structure Shortage where
  kind : CommandKind
  span : Option Span
  commands : Nat := 0

namespace Shortage

/-- The shortage after it has failed one more command, at a place. -/
def failing (s : Shortage) (span : Option Span) : Shortage :=
  { s with span := s.span <|> span, commands := s.commands + 1 }

/-- The diagnostic of a shortage. -/
def diagnostic (s : Shortage) : Diagnostic :=
  (Diagnostic.ofError ⟨.allocation s.kind, s.span⟩).attributed (some s.kind.name) none

/-- The diagnostics of a shortage: one for each command that it has failed. All of them are equal,
since the place is not settled before the outermost command. -/
def diagnostics (s : Shortage) : List Diagnostic := List.replicate s.commands s.diagnostic

end Shortage

/-- What ends a whole pass early. -/
inductive Stop where
  | outOfMemory (s : Shortage)
  | broken (b : Breakdown)

/-- What keeps a command from passing: a problem of its own, or what stops the pass. -/
inductive Setback where
  | problem (e : AnalysisError)
  | stop (s : Stop)

namespace Setback

/-- The setback of a failed check. -/
def ofFailure : Failure → Setback
  | .error e => .problem e
  | .broken b => .stop (.broken b)

/-- The setback of a command that finds no memory. -/
def noMemory (kind : CommandKind) (span : Option Span) : Setback :=
  .stop (.outOfMemory { kind, span })

end Setback

/-- A part of the tree after its run: with the flags that the run has set, how it ended, and what
was found and bound. -/
structure Ran (α β : Type) where
  tree : α
  ending : Except Stop β
  session : Session

namespace Session

/-- Enters a command and opens its journal. -/
def entered (s : Session) (kind : CommandKind) (span : Option Span) : Session :=
  { s with
    table := s.table.openJournal
    around := { s.around with commands := ⟨kind, span⟩ :: s.around.commands } }

/-- Leaves the innermost command. -/
def left (s : Session) : Session :=
  { s with around := { s.around with commands := s.around.commands.tail } }

/-- Leaves a command that passed. Its journal is closed. -/
def kept (s : Session) : Session := (s.withTable SymbolTable.commit).left

/-- Leaves a command that did not pass. Its journal is closed and what it wrote taken back. -/
def takenBack (s : Session) : Session := (s.withTable SymbolTable.rollback).left

/-- Enters a conditional. The branch around is not changed yet. -/
def inConditional (s : Session) (id : Int) : Session :=
  { s with around := { s.around with conditional := some id } }

/-- The session after a step of a check. -/
def taking (p : Place) (s : Session) (step : Check.Step) : Session := (step.take p s).2

/-- Goes on to a branch of the conditional around. -/
def inBranch (s : Session) (index : Int) : Session :=
  { s with around := { s.around with branch := some index } }

/-- Leaves a conditional that was entered in another session. -/
def outOf (s before : Session) : Session :=
  { s with around :=
    { s.around with conditional := before.around.conditional, branch := before.around.branch } }

/-- Adds the diagnostic of a problem, about a command of a kind at a place. -/
def report (s : Session) (e : AnalysisError) (kind : CommandKind) (span : Option Span) : Session :=
  s.add ((Diagnostic.ofError e).attributed (some kind.name) span)

/-- Ends the run of a command of a kind. Only a breakdown leaves its flag as it is. -/
def finish (s : Session) (kind : CommandKind) (c : Command) :
    Except Setback Unit → Ran Command Bool
  | .ok () => ⟨c, .ok true, s.kept⟩
  | .error (.problem e) => ⟨c.markInvalid, .ok false, s.takenBack.report e kind c.span⟩
  | .error (.stop (.outOfMemory m)) =>
    ⟨c.markInvalid, .error (.outOfMemory (m.failing c.span)), s.takenBack⟩
  | .error (.stop (.broken b)) => ⟨c, .error (.broken b), s.takenBack⟩

/-- Runs a command of a kind that finds no memory: after some steps its check is ended. -/
def runOut (setting : Setting) (kind : CommandKind) (c : Command) (s : Session) :
    Ran Command Bool :=
  let inside := s.entered kind c.span
  let reached := (setting.progress c inside).foldl (taking ⟨kind, setting.host⟩) inside
  reached.finish kind c (.error (.noMemory kind c.span))

end Session

end DialogScript
