import DialogScript.Table.Basic

/-!
The watcher index: for each variable, the conditional assignments that write it, in the order of
their numbers. It is read off the records of the assignments.
-/

namespace DialogScript

/-- A conditional assignment to a variable: what it writes, and where it stands. -/
structure Watcher where
  name : String
  conditional : Int
  branch : Int
  assignment : Int
  deriving DecidableEq

namespace Watcher

/-- The watcher that an assignment's record describes. Records of assignments outside conditionals,
and of those that write a part of a variable, describe none. -/
def ofRecord? (assignment : Int) : Value → Option Watcher
  | .map fields =>
    match fields.lookup "lhs_name", fields.lookup "if_id", fields.lookup "branch_index" with
    | some (some (.string name)), some (some (.integer conditional)),
      some (some (.integer branch)) => some ⟨name, conditional, branch, assignment⟩
    | _, _, _ => none
  | _ => none

/-- A watcher as an entry of the index. -/
def entry (w : Watcher) : Value :=
  Value.mapOf [("if_id", .integer w.conditional), ("branch_index", .integer w.branch),
    ("assign_id", .integer w.assignment)]

/-- The entries with a watcher added under the name it writes. -/
def addTo (entries : List (String × List Value)) (w : Watcher) : List (String × List Value) :=
  Keyed.put w.name ((entries.lookup w.name).getD [] ++ [w.entry]) entries

end Watcher

namespace SymbolTable

/-- The watchers, in the order of their numbers. -/
def watchers (t : SymbolTable) : List Watcher :=
  (t.assignments.mergeSort fun a b => a.1 ≤ b.1).filterMap fun r =>
    Watcher.ofRecord? r.1 r.2.value

/-- The watcher index: the watchers under the names they write. -/
def watcherIndex (t : SymbolTable) : Value :=
  Value.mapOf ((t.watchers.foldl Watcher.addTo []).map fun e => (e.1, .array e.2))

/-- The table with the watcher index stored. -/
def indexWatchers (t : SymbolTable) : SymbolTable := t.setSingleton .watcherIndex t.watcherIndex

end SymbolTable

end DialogScript
