import DialogScript.Eval.Reading
import DialogScript.Host.Config
import DialogScript.Table.Basic

/-!
Checking commands. A check reads where the run stands and the host's tables, writes to the symbol
table and to the list of diagnostics, and ends in a result or a failure. What it has written stands
also after a failure; the caller takes it back.
-/

namespace DialogScript

/-- A command that is being run: its kind, and where it stands. -/
structure Running where
  kind : CommandKind
  span : Option Span

/-- Where a run stands: the commands that are being run, the innermost first, and the conditional
and the branch around it, minus one for the last alternative. -/
structure Around where
  commands : List Running := []
  conditional : Option Int := none
  branch : Option Int := none

/-- What a check is given: the kind of its command, and the host's tables. -/
structure Place where
  kind : CommandKind
  host : HostConfig

/-- What an analysis has found and bound so far, and where it stands. -/
structure Session where
  table : SymbolTable := {}
  diagnostics : List Diagnostic := []
  around : Around := {}

namespace Session

/-- Adds a diagnostic. -/
def add (s : Session) (d : Diagnostic) : Session :=
  { s with diagnostics := s.diagnostics ++ [d] }

/-- The innermost command that is being run. -/
def current (s : Session) : Option Running := s.around.commands.head?

/-- Adds a diagnostic about the command that is being run. -/
def note (s : Session) (d : Diagnostic) : Session :=
  s.add (d.attributed (s.current.map fun c => c.kind.name) (s.current.bind Running.span))

/-- The session with a changed table. -/
def withTable (s : Session) (f : SymbolTable → SymbolTable) : Session :=
  { s with table := f s.table }

end Session

/-- Checks at a place. -/
def Check (α : Type) : Type := Place → Session → Except Failure α × Session

namespace Check

instance : Monad Check where
  pure a := fun _ s => (.ok a, s)
  bind m f := fun p s =>
    match m p s with
    | (.ok a, s) => f a p s
    | (.error e, s) => (.error e, s)

theorem pure_apply {α : Type} (a : α) (p : Place) (s : Session) :
    (pure a : Check α) p s = (.ok a, s) := rfl

theorem bind_apply {α β : Type} (m : Check α) (f : α → Check β) (p : Place) (s : Session) :
    (m >>= f) p s = match m p s with
      | (.ok a, s) => f a p s
      | (.error e, s) => (.error e, s) := rfl

/-- Ends with a problem at a given place. -/
def failAt {α : Type} (problem : Problem) (span : Option Span) : Check α :=
  fun _ s => (.error (.error { problem, span }), s)

/-- Ends with a problem at the place of the command. -/
def fail {α : Type} (problem : Problem) : Check α := failAt problem none

/-- The conditional and the branch around the command. -/
def branchAround : Check (Option Int × Option Int) :=
  fun _ s => (.ok (s.around.conditional, s.around.branch), s)

/-- The kind of the command. -/
def kind : Check CommandKind := fun p s => (.ok p.kind, s)

/-- The host's tables. -/
def host : Check HostConfig := fun p s => (.ok p.host, s)

/-- The value bound to a name. -/
def lookup (name : String) : Check (Option Value) := fun _ s => (.ok (s.table.lookup name), s)

/-- Whether a name is bound. -/
def isBound (name : String) : Check Bool := fun _ s => (.ok (s.table.contains name), s)

/-- An entry that exists at most once. -/
def singleton (which : Singleton) : Check (Option Value) :=
  fun _ s => (.ok (s.table.singleton which), s)

/-- Makes a write. -/
def write (w : SymbolTable.Write) : Check Unit := fun _ s => (.ok (), s.withTable (·.apply w))

/-- Adds a remark about the command. -/
def remark (r : Remark) : Check Unit := fun _ s => (.ok (), s.note (Diagnostic.ofRemark r))

/-- Adds a remark if there is reason for it. -/
def remarkIf (reason : Bool) (r : Remark) : Check Unit := if reason then remark r else pure ()

/-- Declares a name; gives how often it has been declared. -/
def declare (name : String) (value : Value) : Check Nat := fun _ s =>
  let (declared, t) := s.table.declare name value
  (.ok declared.count, { s with table := t })

/-- Evaluates against the bindings. Warnings are added as they are raised. -/
def eval {α : Type} (m : Eval α) : Check α := fun p s =>
  let r := m ⟨s.table.lookup, p.host.epsilon⟩
  (r.result, { s with diagnostics := s.diagnostics ++ r.warnings })

/-- Breaks down unless some integers can be written. -/
def requireWritable (ns : List Int) : Check Unit := eval (Eval.orBreak (Number.checkWritable ns))

/-- The static type of an expression. -/
def typeOf (e : Expr) : Check ValueType := eval e.typeOf

/-- The script text of an expression; a breakdown if it has none. -/
def scriptText (e : Expr) : Check String := eval (Eval.orBreak e.text)

/-- An expression as an integer; an empty slot is zero. -/
def integer (e : Expr) : Check Int := do
  let n ← eval e.evalInteger
  pure (n.getD 0)

/-- An expression as a double; an empty slot is zero. -/
def double (e : Expr) : Check Float := do
  let x ← eval e.evalDouble
  pure (x.getD 0.0)

/-- An expression as a text; an empty slot is the empty text. -/
def text (e : Expr) : Check String := do
  let s ← eval e.evalText
  pure (s.getD "")

end Check

end DialogScript
