import DialogScript.Analysis.Ending
import DialogScript.Check.Action

/-!
Running a command: its check inside a journal of its own. A conditional checks every condition and
runs every branch, also after a failure, and leaves a record that outlives its own failure; what
its valid commands wrote outlives it too, since each of them has closed its journal.
-/

namespace DialogScript

/-- Runs the check of an action. -/
def runAction (setting : Setting) (status : Status) (a : Action) (s : Session) :
    Ran Command Bool :=
  match a.kind? with
  | none => ⟨.action status a, .error (.broken (.noMember "SelectCommand" "kind")), s⟩
  | some kind =>
    if setting.exhausted = some kind then s.runOut setting kind (.action status a)
    else
      let (result, s) := Check.action a ⟨kind, setting.host⟩ (s.entered kind status.span)
      s.finish kind (.action status a) (result.mapError Setback.ofFailure)

/-- Passes over a loop, with a warning. -/
def runLoop (setting : Setting) (kind : CommandKind) (c : Command) (s : Session) :
    Ran Command Bool :=
  if setting.exhausted = some kind then s.runOut setting kind c
  else
    ⟨c, .ok true,
      s.add ((Diagnostic.ofRemark (.commandSkipped kind)).attributed (some kind.name) c.span)⟩

/-- Checks the condition of a branch; whether it is one. A problem is reported and does not keep the
branch from being run. -/
def runCondition (setting : Setting) (index : Nat) (condition : Expr) (s : Session) :
    Except Stop Bool × Session :=
  match Check.condition index condition ⟨.conditional, setting.host⟩ s with
  | (.ok (), s) => (.ok true, s)
  | (.error (.error e), s) => (.ok false, s.note (Diagnostic.ofError e))
  | (.error (.broken b), s) => (.error (.broken b), s)

/-! ## The record of a conditional -/

/-- The numbers of the valid assignments among some commands, those in nested conditionals left
out. -/
def assignmentIds : List Command → List Int
  | [] => []
  | .action status (.assign _ _ id) :: rest =>
    if status.valid then id :: assignmentIds rest else assignmentIds rest
  | _ :: rest => assignmentIds rest

/-- The numbers of the valid assignments in each branch, and in the last alternative. -/
def branchAssignments (branches : List Branch) (otherwise : List Command) : List (List Int) :=
  branches.map (fun b => assignmentIds b.commands) ++ [assignmentIds otherwise]

/-- The script text of the first condition. -/
def firstCondition : List Branch → Except Breakdown String
  | [] => .ok ""
  | b :: _ => b.condition.text

/-- What is kept of a conditional, unless its first condition has no text. -/
def conditionalRecord (id : Int) (branches : List Branch) (otherwise : List Command) :
    Except Breakdown Value := do
  let assignments := branchAssignments branches otherwise
  let condition ← firstCondition branches
  .ok (Value.mapOf [("if_id", .integer id), ("branch_count", .integer branches.length),
    ("else_command_count", .integer otherwise.length), ("if_condition", .string condition),
    ("branch_assignments", .array (assignments.map fun ids => .array (ids.map Value.integer))),
    ("has_assignments", .bool (assignments.any fun ids => !ids.isEmpty))])

/-- Stores the record of a conditional in a journal of its own. -/
def recordConditional (id : Int) (record : Value) (t : SymbolTable) : SymbolTable :=
  (t.openJournal.setRecord .conditionals id record).commit

/-- How a conditional ends when it has been run to its end. -/
def conditionalEnding (failures : Nat) (span : Option Span) : Except Setback Unit :=
  if failures = 0 then .ok () else .error (.problem ⟨.branchFailures failures, span⟩)

/-- Leaves a conditional after what is in it has been run: its branches, and its last alternative.
Unless a stop has ended that, its record is stored. -/
def leaveConditional (status : Status) (id : Int) (before : Session)
    (inner : Ran (List Branch × List Command) Nat) : Ran Command Bool :=
  let command := Command.conditional status inner.tree.1 inner.tree.2 id
  let outside := inner.session.outOf before
  match inner.ending with
  | .error stop => outside.finish .conditional command (.error (.stop stop))
  | .ok failures =>
    match conditionalRecord id inner.tree.1 inner.tree.2 with
    | .error b => outside.finish .conditional command (.error (.stop (.broken b)))
    | .ok record =>
      (outside.withTable (recordConditional id record)).finish .conditional command
        (conditionalEnding failures status.span)

/-! ## Commands -/

/-- One failure, if there is one. -/
def failureCount (passed : Bool) : Nat := if passed then 0 else 1

/-- Runs another part of the tree after a first one, and counts the failures of both. A stop ends
the run, and the other part is left as it is. -/
def Ran.andThen {α β γ δ : Type} (first : Ran α β) (count : β → Nat) (join : α → γ → δ) (other : γ)
    (next : Session → Ran γ Nat) : Ran δ Nat :=
  match first.ending with
  | .error stop => ⟨join first.tree other, .error stop, first.session⟩
  | .ok found =>
    let last := next first.session
    ⟨join first.tree last.tree, (count found + ·) <$> last.ending, last.session⟩

mutual

/-- Runs a command. -/
def runCommand (setting : Setting) : Command → Session → Ran Command Bool
  | .action status a, s => runAction setting status a s
  | .forLoop status v option args body, s =>
    runLoop setting .forLoop (.forLoop status v option args body) s
  | .whileLoop status condition body, s =>
    runLoop setting .whileLoop (.whileLoop status condition body) s
  | .conditional status branches otherwise id, s =>
    let command := Command.conditional status branches otherwise id
    let inside := s.entered .conditional status.span
    if setting.exhausted = some .conditional then s.runOut setting .conditional command
    else if branches.isEmpty then
      inside.finish .conditional command
        (.error (.problem ⟨.missingField .conditional "IF branch", none⟩))
    else
      leaveConditional status id inside
        ((runBranches setting 0 branches (inside.inConditional id)).andThen (·) Prod.mk otherwise
          fun s => runCommands setting otherwise (s.inBranch (-1)))

/-- Runs commands in order and counts the failures; the first stop ends them. -/
def runCommands (setting : Setting) : List Command → Session → Ran (List Command) Nat
  | [], s => ⟨[], .ok 0, s⟩
  | c :: rest, s =>
    (runCommand setting c s).andThen failureCount List.cons rest (runCommands setting rest)

/-- Runs a branch of a conditional: its condition is checked before its commands are run. -/
def runBranch (setting : Setting) (index : Nat) : Branch → Session → Ran Branch Nat
  | .mk span condition commands, s =>
    match runCondition setting index condition s with
    | (.error stop, s) => ⟨.mk span condition commands, .error stop, s⟩
    | (.ok held, s) =>
      let inner := runCommands setting commands (s.inBranch index)
      ⟨.mk span condition inner.tree, (failureCount held + ·) <$> inner.ending, inner.session⟩

/-- Runs the branches of a conditional in order, from one index on. -/
def runBranches (setting : Setting) (index : Nat) :
    List Branch → Session → Ran (List Branch) Nat
  | [], s => ⟨[], .ok 0, s⟩
  | b :: rest, s =>
    (runBranch setting index b s).andThen (·) List.cons rest (runBranches setting (index + 1) rest)

end

end DialogScript
