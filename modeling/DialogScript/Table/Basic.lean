import DialogScript.Keyed
import DialogScript.Table.Key
import DialogScript.Value.Basic

/-!
The symbol table: named bindings, their first values, and the registry of option maps, shared
lists, single entries and records. Every write leaves an undo entry in the innermost open journal;
rolling back replays a journal from its newest entry. A journal that is closed otherwise is
forgotten, so what it wrote is not part of the journal around it.
-/

namespace DialogScript

/-- A value under a name, and how often the name has been declared. The generation tells a value
from the one that took its place. -/
structure Binding where
  value : Value
  count : Nat := 1
  generation : Nat := 0

/-- A record's value, with the generation that tells it from the one that took its place. -/
structure Record where
  value : Value
  generation : Nat := 0

/-- What takes back one write. -/
inductive Undo where
  | restoreBinding (name : String) (previous : Option Binding)
  | dropBaseline (name : String)
  | uncount (name : String) (generation : Nat)
  | restoreOptions (kind : CommandKind) (name : String) (previous : Option Value)
  | dropTracked (list : TrackedList)
  | popTracked (list : TrackedList)
  | restoreSingleton (which : Singleton) (previous : Option Value)
  | restoreRecord (kind : RecordKind) (id : Int) (previous : Option Record)
  | restoreMember (kind : RecordKind) (id : Int) (generation : Nat) (key : String)
      (previous : Option Value)

/-- The symbol table. The innermost journal comes first, and in each journal the newest entry. -/
structure SymbolTable where
  bindings : List (String × Binding) := []
  baselines : List (String × Value) := []
  options : List ((CommandKind × String) × Value) := []
  tracked : List (TrackedList × List Value) := []
  singletons : List (Singleton × Value) := []
  conditionals : List (Int × Record) := []
  assignments : List (Int × Record) := []
  journals : List (List Undo) := []

namespace SymbolTable

/-! ## Reading -/

/-- The binding of a name. -/
def binding? (t : SymbolTable) (name : String) : Option Binding := t.bindings.lookup name

/-- The value bound to a name. -/
def lookup (t : SymbolTable) (name : String) : Option Value :=
  (t.binding? name).map Binding.value

/-- Whether a name is bound. -/
def contains (t : SymbolTable) (name : String) : Bool := (t.binding? name).isSome

/-- The value a name had when it was first declared. -/
def baseline (t : SymbolTable) (name : String) : Option Value := t.baselines.lookup name

/-- The bound names, in order. -/
def names (t : SymbolTable) : List String := Keyed.keys t.bindings

/-- How often each bound name has been declared. -/
def counts (t : SymbolTable) : List (String × Nat) :=
  t.bindings.map fun entry => (entry.1, entry.2.count)

/-- The option map that a command of a kind stored for a name. -/
def optionsOf (t : SymbolTable) (kind : CommandKind) (name : String) : Option Value :=
  t.options.lookup (kind, name)

/-- A shared list, if something was appended to it. -/
def trackedList (t : SymbolTable) (list : TrackedList) : Option (List Value) :=
  t.tracked.lookup list

/-- An entry that exists at most once. -/
def singleton (t : SymbolTable) (which : Singleton) : Option Value := t.singletons.lookup which

/-- The records of a kind. -/
def records (t : SymbolTable) : RecordKind → List (Int × Record)
  | .conditionals => t.conditionals
  | .assignments => t.assignments

/-- The value of a record. -/
def record (t : SymbolTable) (kind : RecordKind) (id : Int) : Option Value :=
  ((t.records kind).lookup id).map Record.value

/-! ## Writing -/

/-- The table with other records of a kind. -/
def withRecords (t : SymbolTable) (kind : RecordKind) (records : List (Int × Record)) :
    SymbolTable :=
  match kind with
  | .conditionals => { t with conditionals := records }
  | .assignments => { t with assignments := records }

/-- Notes how to take back a write, if a journal is open. -/
def log (t : SymbolTable) (u : Undo) : SymbolTable :=
  match t.journals with
  | [] => t
  | journal :: outer => { t with journals := (u :: journal) :: outer }

/-- What a declaration finds or binds. -/
structure Declared where
  value : Value
  count : Nat
  redeclared : Bool

/-- Binds a name that is not bound, and remembers the value as its first one. A bound name keeps its
value and is counted once more. -/
def declare (t : SymbolTable) (name : String) (value : Value) : Declared × SymbolTable :=
  match t.binding? name with
  | some b =>
    (⟨b.value, b.count + 1, true⟩,
      { t with bindings := Keyed.put name { b with count := b.count + 1 } t.bindings }.log
        (.uncount name b.generation))
  | none =>
    (⟨value, 1, false⟩,
      ({ t with
          bindings := Keyed.put name { value } t.bindings
          baselines := Keyed.put name value t.baselines }.log
        (.restoreBinding name none)).log (.dropBaseline name))

/-- Binds a name to a value in place of the one it has, keeping the count. -/
def overwrite (t : SymbolTable) (name : String) (value : Value) : SymbolTable :=
  let previous := t.binding? name
  let next := match previous with
    | some b => { b with value, generation := b.generation + 1 }
    | none => { value }
  { t with bindings := Keyed.put name next t.bindings }.log (.restoreBinding name previous)

/-- Stores an option map. -/
def setOptions (t : SymbolTable) (kind : CommandKind) (name : String) (value : Value) :
    SymbolTable :=
  { t with options := Keyed.put (kind, name) value t.options }.log
    (.restoreOptions kind name (t.optionsOf kind name))

/-- Appends to a shared list, which begins with its first item. -/
def appendTracked (t : SymbolTable) (list : TrackedList) (item : Value) : SymbolTable :=
  match t.trackedList list with
  | some items =>
    { t with tracked := Keyed.put list (items ++ [item]) t.tracked }.log (.popTracked list)
  | none =>
    ({ t with tracked := Keyed.put list [item] t.tracked }.log (.dropTracked list)).log
      (.popTracked list)

/-- Sets an entry that exists at most once. -/
def setSingleton (t : SymbolTable) (which : Singleton) (value : Value) : SymbolTable :=
  { t with singletons := Keyed.put which value t.singletons }.log
    (.restoreSingleton which (t.singleton which))

/-- Sets a record. -/
def setRecord (t : SymbolTable) (kind : RecordKind) (id : Int) (value : Value) : SymbolTable :=
  let previous := (t.records kind).lookup id
  let next : Record := match previous with
    | some r => ⟨value, r.generation + 1⟩
    | none => ⟨value, 0⟩
  (t.withRecords kind (Keyed.put id next (t.records kind))).log (.restoreRecord kind id previous)

/-- Sets one field of a record that is a map. -/
def setMember (t : SymbolTable) (kind : RecordKind) (id : Int) (key : String)
    (value : Option Value) : SymbolTable :=
  match (t.records kind).lookup id with
  | some ⟨.map members, generation⟩ =>
    let next : Record := ⟨.map (Keyed.put key value members), generation⟩
    (t.withRecords kind (Keyed.put id next (t.records kind))).log
      (.restoreMember kind id generation key (members.lookup key).join)
  | _ => t

/-- Sets fields of a record, if it exists. -/
def updateRecord (t : SymbolTable) (kind : RecordKind) (id : Int)
    (fields : List (String × Option Value)) : Except Breakdown (Bool × SymbolTable) :=
  match (t.records kind).lookup id with
  | none => .ok (false, t)
  | some r =>
    match r.value.asMap with
    | .error e => .error e
    | .ok _ => .ok (true, fields.foldl (fun t f => t.setMember kind id f.1 f.2) t)

/-- The writes that a command can make. -/
inductive Write where
  | declare (name : String) (value : Value)
  | overwrite (name : String) (value : Value)
  | setOptions (kind : CommandKind) (name : String) (value : Value)
  | appendTracked (list : TrackedList) (item : Value)
  | setSingleton (which : Singleton) (value : Value)
  | setRecord (kind : RecordKind) (id : Int) (value : Value)

/-- Makes a write. -/
def apply (t : SymbolTable) : Write → SymbolTable
  | .declare name value => (t.declare name value).2
  | .overwrite name value => t.overwrite name value
  | .setOptions kind name value => t.setOptions kind name value
  | .appendTracked list item => t.appendTracked list item
  | .setSingleton which value => t.setSingleton which value
  | .setRecord kind id value => t.setRecord kind id value

/-- Changes a bound value where it is. This is not noted in any journal. -/
def mutate (t : SymbolTable) (name : String) (f : Value → Value) : SymbolTable :=
  { t with bindings := Keyed.modify name (fun b => { b with value := f b.value }) t.bindings }

/-! ## Transactions -/

/-- A record map with a field as it was before. -/
def restoreField (key : String) (previous : Option Value) : Value → Value
  | .map members => .map (Keyed.restore key (previous.map some) members)
  | v => v

/-- Takes back one write. A count or a field is taken back only on the value it was written to. -/
def undo (t : SymbolTable) : Undo → SymbolTable
  | .restoreBinding name previous =>
    { t with bindings := Keyed.restore name previous t.bindings }
  | .dropBaseline name => { t with baselines := Keyed.erase name t.baselines }
  | .uncount name generation =>
    let less (b : Binding) : Binding :=
      if b.generation = generation then { b with count := b.count - 1 } else b
    { t with bindings := Keyed.modify name less t.bindings }
  | .restoreOptions kind name previous =>
    { t with options := Keyed.restore (kind, name) previous t.options }
  | .dropTracked list => { t with tracked := Keyed.erase list t.tracked }
  | .popTracked list => { t with tracked := Keyed.modify list List.dropLast t.tracked }
  | .restoreSingleton which previous =>
    { t with singletons := Keyed.restore which previous t.singletons }
  | .restoreRecord kind id previous =>
    t.withRecords kind (Keyed.restore id previous (t.records kind))
  | .restoreMember kind id generation key previous =>
    let before (r : Record) : Record :=
      if r.generation = generation then { r with value := restoreField key previous r.value } else r
    t.withRecords kind (Keyed.modify id before (t.records kind))

/-- Opens a journal. -/
def openJournal (t : SymbolTable) : SymbolTable := { t with journals := [] :: t.journals }

/-- Closes the innermost journal and keeps what was written. -/
def commit (t : SymbolTable) : SymbolTable := { t with journals := t.journals.tail }

/-- Closes the innermost journal and takes back what it notes, from the newest entry. -/
def rollback (t : SymbolTable) : SymbolTable :=
  match t.journals with
  | [] => t
  | journal :: outer => { journal.foldl undo t with journals := outer }

/-! ## Handing on -/

/-- The records of a kind under their text keys. -/
def recordView (t : SymbolTable) (kind : RecordKind) :
    Except Breakdown (List (String × Option Value)) :=
  (t.records kind).foldlM (fun entries r => do
    let key ← kind.key r.1
    .ok (Keyed.put key (some r.2.value) entries)) []

/-- Adds the records of a kind to a flat list, if there are any. -/
def addRecords (t : SymbolTable) (flat : List (String × Value)) (kind : RecordKind) :
    Except Breakdown (List (String × Value)) :=
  if (t.records kind).isEmpty then .ok flat
  else do
    let entries ← t.recordView kind
    .ok (Keyed.put kind.name (.map entries) flat)

/-- Every binding and every entry of the registry under its text key. A record whose number has no
text breaks it down. -/
def flatten (t : SymbolTable) : Except Breakdown (List (String × Value)) :=
  let bound := t.bindings.map fun entry => (entry.1, entry.2.value)
  let options := t.options.foldl (fun flat o => Keyed.put (optionKey o.1.1 o.1.2) o.2 flat) bound
  let lists := t.tracked.foldl (fun flat l => Keyed.put l.1.name (.array l.2) flat) options
  let singles := t.singletons.foldl (fun flat s => Keyed.put s.1.name s.2 flat) lists
  RecordKind.all.foldlM t.addRecords singles

end SymbolTable

end DialogScript
