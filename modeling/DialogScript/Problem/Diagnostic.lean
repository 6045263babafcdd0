import DialogScript.Data.Basic
import DialogScript.Problem.Remark

/-!
Diagnostics: problems and remarks as they are shown, and the counts over a list of them.
-/

namespace DialogScript

/-- How serious a diagnostic is. -/
inductive Severity where
  | error | warning | info | hint
  deriving DecidableEq, Repr

namespace Severity

/-- Every severity. -/
def all : List Severity := [error, warning, info, hint]

/-- The word for a severity. -/
def name : Severity → String
  | error => "error"
  | warning => "warning"
  | info => "info"
  | hint => "hint"

/-- The severity with a word. -/
def ofName? (s : String) : Option Severity := all.find? (·.name == s)

end Severity

/-- A message with its code, and the place and the command it is about where they are known. -/
structure Diagnostic where
  code : String
  message : String
  severity : Severity
  span : Option Span := none
  command : Option String := none
  hints : List String := []

namespace Diagnostic

/-- The diagnostic of a problem. -/
def ofError (e : AnalysisError) : Diagnostic :=
  { code := e.problem.code, message := e.problem.message, severity := .error, span := e.span,
    hints := e.problem.hints }

/-- The diagnostic of a remark. -/
def ofRemark (r : Remark) : Diagnostic :=
  { code := r.code, message := r.message,
    severity := if r.isWarning then .warning else .info }

/-- A diagnostic with a command and a span where it has none of its own. -/
def attributed (d : Diagnostic) (command : Option String) (span : Option Span) : Diagnostic :=
  { d with command := d.command <|> command, span := d.span <|> span }

/-- The command, the severity and code, and the message, and a line for each hint, after a place. -/
def textAt (d : Diagnostic) (place : String) : String :=
  let command := match d.command with
    | some c => if c = "" then "" else " " ++ c
    | none => ""
  let first := place ++ ":" ++ command ++ " " ++ d.severity.name ++ "[" ++ d.code ++ "]: "
    ++ d.message
  "\n".intercalate (first :: d.hints.map ("    = hint: " ++ ·))

/-- The text of a diagnostic, unless its place has none. -/
def text (d : Diagnostic) : Except Breakdown String :=
  match d.span with
  | none => .ok (d.textAt "<script>")
  | some span => d.textAt <$> span.startText

/-- A location as data. -/
def pointData (l : Location) : Data := .dict [("line", .int l.line), ("column", .int l.column)]

/-- The range of a span as data. -/
def rangeData : Span → Except Breakdown Data
  | .between start stop => .ok (.dict [("start", pointData start), ("end", pointData stop)])
  | .unread data => Span.noStart data

/-- What a diagnostic says as data, its place left out. -/
def entries (d : Diagnostic) : List (String × Data) :=
  [("code", .text d.code), ("message", .text d.message), ("severity", .text d.severity.name),
    ("command", .ofText? d.command), ("hints", .list (d.hints.map Data.text))]

/-- A diagnostic as data, for tools, unless its place has no start. -/
def toData (d : Diagnostic) : Except Breakdown Data :=
  match d.span with
  | none => .ok (.dict d.entries)
  | some span => (fun range => .dict (d.entries ++ [("range", range)])) <$> rangeData span

/-- The diagnostics of a severity. -/
def ofSeverity (s : Severity) (ds : List Diagnostic) : List Diagnostic :=
  ds.filter (·.severity == s)

/-- The number of errors. -/
def errorCount (ds : List Diagnostic) : Nat := (ofSeverity .error ds).length

/-- The number of warnings. -/
def warningCount (ds : List Diagnostic) : Nat := (ofSeverity .warning ds).length

/-- The diagnostics with a code. -/
def withCode (code : String) (ds : List Diagnostic) : List Diagnostic :=
  ds.filter (·.code == code)

/-- The line of counts under a list of diagnostics, if there is something to count. -/
def summary (ds : List Diagnostic) : List String :=
  let errors := errorCount ds
  let warnings := warningCount ds
  if 0 < errors then
    ["\n" ++ toString errors ++ " error(s), " ++ toString warnings ++ " warning(s)"]
  else if 0 < warnings then ["\n" ++ toString warnings ++ " warning(s)"]
  else []

/-- All diagnostics as text, with or without notes, and their counts. -/
def report (includeNotes : Bool) (ds : List Diagnostic) : Except Breakdown String := do
  let shown ← (ds.filter fun d => includeNotes || d.severity != .info).mapM text
  pure ("\n".intercalate (shown ++ summary ds))

/-- All diagnostics as data, and their counts. -/
def reportData (ds : List Diagnostic) : Except Breakdown Data := do
  let diagnostics ← ds.mapM toData
  pure (.dict [("diagnostics", .list diagnostics), ("error_count", .int (errorCount ds)),
    ("warning_count", .int (warningCount ds))])

theorem severity_ofRemark (r : Remark) : (ofRemark r).severity ≠ .error := by
  unfold ofRemark
  dsimp only
  split <;> decide

theorem errorCount_append (ds es : List Diagnostic) :
    errorCount (ds ++ es) = errorCount ds + errorCount es := by
  simp [errorCount, ofSeverity]

theorem errorCount_eq_zero {ds : List Diagnostic} :
    errorCount ds = 0 ↔ ∀ d ∈ ds, d.severity ≠ .error := by
  simp [errorCount, ofSeverity]

end Diagnostic

/-- A remark that was raised at a place. -/
structure Raised where
  remark : Remark
  span : Option Span

/-- The diagnostic of a raised remark. -/
def Raised.diagnostic (r : Raised) : Diagnostic :=
  { Diagnostic.ofRemark r.remark with span := r.span }

end DialogScript
