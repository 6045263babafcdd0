import DialogScript.Proofs.Running.Atomic

/-!
The commands that a run visits, each with the session in which it is run, and the conditions that
are checked on the way.
-/

namespace DialogScript

/-- A command that is run, and the session in which it is. -/
structure Visit where
  command : Command
  session : Session

/-- The run of a visited command. -/
def Visit.ran (setting : Setting) (v : Visit) : Ran Command Bool :=
  runCommand setting v.command v.session

/-- What is met after a first part of a run: nothing, if a stop has ended that. -/
def Ran.following {α β γ : Type} (first : Ran α β) (next : Session → List γ) : List γ :=
  match first.ending with
  | .error _ => []
  | .ok _ => next first.session

/-- Whether a condition held, unless its check is stopped. -/
def conditionHeld (setting : Setting) (index : Nat) (condition : Expr) (s : Session) : List Bool :=
  match (runCondition setting index condition s).1 with
  | .error _ => []
  | .ok held => [held]

/-- Which conditions held, of those that the run of some branches checks. -/
def conditionsHeld (setting : Setting) (index : Nat) : List Branch → Session → List Bool
  | [], _ => []
  | b :: rest, s =>
    conditionHeld setting index b.condition s ++
      (runBranch setting index b s).following (conditionsHeld setting (index + 1) rest)

/-- Which conditions held, of those of a visited command itself. -/
def Visit.held (setting : Setting) (v : Visit) : List Bool :=
  match v.command with
  | .conditional status branches _ id =>
    if setting.exhausted = some .conditional then []
    else
      conditionsHeld setting 0 branches
        ((v.session.entered .conditional status.span).inConditional id)
  | _ => []

/-- The number of conditions that failed, of those of some visited commands. -/
def failedConditions (setting : Setting) (vs : List Visit) : Nat :=
  (vs.flatMap (Visit.held setting)).count false

mutual

/-- The commands that the run of a command visits: itself first. -/
def visits (setting : Setting) : Command → Session → List Visit
  | .conditional status branches otherwise id, s =>
    let inside := (s.entered .conditional status.span).inConditional id
    let nested : List Visit :=
      if setting.exhausted = some .conditional then []
      else if branches.isEmpty then []
      else
        branchesVisits setting 0 branches inside ++
          (runBranches setting 0 branches inside).following fun s =>
            allVisits setting otherwise (s.inBranch (-1))
    ⟨.conditional status branches otherwise id, s⟩ :: nested
  | .action status a, s => [⟨.action status a, s⟩]
  | .forLoop status v option args body, s => [⟨.forLoop status v option args body, s⟩]
  | .whileLoop status condition body, s => [⟨.whileLoop status condition body, s⟩]

/-- The commands that the run of some commands visits. -/
def allVisits (setting : Setting) : List Command → Session → List Visit
  | [], _ => []
  | c :: rest, s =>
    visits setting c s ++ (runCommand setting c s).following (allVisits setting rest)

/-- The commands that the run of a branch visits. -/
def branchVisits (setting : Setting) (index : Nat) : Branch → Session → List Visit
  | .mk _ condition commands, s =>
    match runCondition setting index condition s with
    | (.error _, _) => []
    | (.ok _, s) => allVisits setting commands (s.inBranch index)

/-- The commands that the run of some branches visits. -/
def branchesVisits (setting : Setting) (index : Nat) : List Branch → Session → List Visit
  | [], _ => []
  | b :: rest, s =>
    branchVisits setting index b s ++
      (runBranch setting index b s).following (branchesVisits setting (index + 1) rest)

end

namespace Command

/-- The number of commands marked as invalid, of a command and those in it. -/
def faults (c : Command) : Nat := (flags c).count false

/-- The number of commands marked as invalid, of some commands and those in them. -/
def allFaults (cs : List Command) : Nat := (allFlags cs).count false

/-- The number of commands marked as invalid, of those in some branches. -/
def branchFaults (bs : List Branch) : Nat := (branchFlags bs).count false

/-- The commands that stand in a command directly. -/
def children : Command → List Command
  | conditional _ branches otherwise _ => branches.flatMap Branch.commands ++ otherwise
  | forLoop _ _ _ _ body | whileLoop _ _ body => body
  | action .. => []

mutual

/-- A command and those in it that a run to its end reaches: none in a loop, and none in a
conditional without a branch. -/
def reached : Command → List Command
  | conditional status branches otherwise id =>
    conditional status branches otherwise id ::
      if branches.isEmpty then [] else branchReached branches ++ allReached otherwise
  | action status a => [action status a]
  | forLoop status v option args body => [forLoop status v option args body]
  | whileLoop status condition body => [whileLoop status condition body]

/-- Some commands and those in them that a run to its end reaches. -/
def allReached : List Command → List Command
  | [] => []
  | c :: rest => reached c ++ allReached rest

/-- The commands in some branches that a run to its end reaches. -/
def branchReached : List Branch → List Command
  | [] => []
  | .mk _ _ commands :: rest => allReached commands ++ branchReached rest

end

end Command

end DialogScript
