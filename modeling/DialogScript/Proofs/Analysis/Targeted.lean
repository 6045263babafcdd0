import DialogScript.Proofs.Analysis.Flattened
import DialogScript.Proofs.Analysis.Watching
import DialogScript.Proofs.Running.Lasting
import DialogScript.Proofs.Running.Trail
import DialogScript.Proofs.Typing.Reading

/-!
What assignments write. The target of an assignment is checked by its static type alone, and a name
that looks like a path has the type of a text although it is not bound. So an assignment that passes
writes a bound name or a path, and so does every watcher in the index of an analysis.
-/

namespace DialogScript

variable {setting : Setting} {s : Session} {t u : SymbolTable}

/-! ## One assignment -/

namespace Check

variable {p : Place}

/-- A name with the type that it has as the target of an assignment: that of its value, or that of a
text where it is not bound and looks like a path. -/
inductive Target (t : SymbolTable) (name : String) : ValueType → Prop where
  | bound {v : Value} (h : t.lookup name = some v) : Target t name v.type
  | path (hfree : t.lookup name = none) (h : Path.looksLikePath name = true) :
      Target t name .string

theorem target_of_typeOf {span : Option Span} {name : String} {type : ValueType}
    (h : (typeOf (.named span name) p s).1 = .ok type) : Target s.table name type := by
  rcases Reading.named_type_ok h with ⟨v, hv, rfl⟩ | ⟨hfree, hpath, rfl⟩
  · exact .bound hv
  · exact .path hfree hpath

end Check

theorem lookup_setRecord (t : SymbolTable) (kind : RecordKind) (id : Int) (v : Value) :
    (t.setRecord kind id v).lookup = t.lookup := by
  have hsame : (t.setRecord kind id v).bindings = t.bindings :=
    (t.bindings_apply (w := .setRecord kind id v) rfl).1
  funext name
  unfold SymbolTable.lookup SymbolTable.binding?
  rw [hsame]

theorem record_setRecord (t : SymbolTable) (kind : RecordKind) (id : Int) (v : Value) :
    (t.setRecord kind id v).record kind id = some v := by
  unfold SymbolTable.record SymbolTable.setRecord
  rw [SymbolTable.records_log, SymbolTable.lookup_putRecord, if_pos ⟨rfl, rfl⟩]
  cases (t.records kind).lookup id <;> rfl

/-- An assignment to a variable that passes leaves a record with the types of both sides, which fit,
and binds nothing. -/
theorem runAction_assigned {status : Status} {span : Option Span} {name : String} {rhs : Expr}
    {id : Int}
    (h : (runAction setting status (.assign (.named span name) rhs id) s).ending = .ok true) :
    ∃ (lhsType rhsType : ValueType) (fields : List (String × Option Value)),
      (runAction setting status (.assign (.named span name) rhs id) s).session.table.record
        .assignments id = some (.map fields) ∧
      fields.lookup "lhs_name" = some (some (.string name)) ∧
      fields.lookup "lhs_type" = some (some (.string lhsType.name)) ∧
      fields.lookup "rhs_type" = some (some (.string rhsType.name)) ∧
      Check.Fits lhsType rhsType ∧
      (runAction setting status (.assign (.named span name) rhs id) s).session.table.lookup =
        s.table.lookup ∧
      Check.Target s.table name lhsType := by
  obtain ⟨kind, u, hk, hpasses, hu⟩ := runAction_passed h
  obtain ⟨-, lhsText, rhsText, lhsType, rhsType, branch, -, -, hlhs, -, hfits, -, rfl⟩ :=
    Check.assignment_passes hpasses
  have hrecord := (congrArg (fun table => table.record .assignments id) hu).trans
    (record_setRecord s.table .assignments id _)
  have hlookup := (congrArg SymbolTable.lookup hu).trans
    (lookup_setRecord s.table .assignments id _)
  exact ⟨lhsType, rhsType, _, hrecord, rfl, rfl, rfl, hfits, hlookup,
    Check.target_of_typeOf hlhs⟩

/-! ## The records of a run -/

/-- Every watcher that the records of a table describe writes a name that is bound or looks like a
path. -/
def Targeted (t : SymbolTable) : Prop :=
  ∀ w ∈ t.watchers, t.lookup w.name ≠ none ∨ Path.looksLikePath w.name = true

theorem Targeted.of_same (h : Targeted t) (hw : u.watchers = t.watchers)
    (hl : ∀ name, t.lookup name ≠ none → u.lookup name ≠ none) : Targeted u := by
  intro w hmem
  rw [hw] at hmem
  exact (h w hmem).imp_left (hl w.name)

theorem mem_watchers_iff {w : Watcher} :
    w ∈ t.watchers ↔ ∃ id, (id, some w) ∈ t.assigned := by
  rw [(watchers_perm t).mem_iff, List.mem_filterMap]
  constructor
  · rintro ⟨⟨id, _⟩, hmem, rfl⟩
    exact ⟨id, hmem⟩
  · rintro ⟨id, hmem⟩
    exact ⟨(id, some w), hmem, rfl⟩

theorem Targeted.of_unassigned (h : t.assignments = []) : Targeted t := by
  intro w hw
  obtain ⟨id, hmem⟩ := mem_watchers_iff.1 hw
  rw [SymbolTable.assigned, h] at hmem
  exact absurd hmem List.not_mem_nil

/-- A write never unbinds a name. -/
theorem bound_apply (w : SymbolTable.Write) {name : String} (h : t.lookup name ≠ none) :
    (t.apply w).lookup name ≠ none := by
  have hbound : t.binding? name ≠ none := fun hnone => h (by rw [SymbolTable.lookup, hnone]; rfl)
  have hkept : (t.apply w).binding? name ≠ none := by
    by_cases hw : w.binds = false
    · unfold SymbolTable.binding?
      rw [(t.bindings_apply hw).1]
      exact hbound
    · cases w with
      | declare other value =>
        rw [SymbolTable.binding?_declare]
        split
        · exact Option.some_ne_none _
        · exact hbound
      | overwrite other value =>
        rw [SymbolTable.binding?_overwrite]
        split
        · exact Option.some_ne_none _
        · exact hbound
      | _ => exact absurd rfl hw
  rw [SymbolTable.lookup]
  exact fun hnone => hkept (Option.map_eq_none_iff.1 hnone)

theorem bound_applyAll (ws : List SymbolTable.Write) {name : String} (h : t.lookup name ≠ none) :
    (t.applyAll ws).lookup name ≠ none := by
  induction ws generalizing t with
  | nil => exact h
  | cons w rest ih => exact ih (bound_apply w h)

/-- The record of an assignment describes a watcher only if the assignment writes a variable. -/
theorem named_of_watcher {id : Int} {lhsText rhsText lhsType rhsType : String} {lhs : Expr}
    {around : Option Int × Option Int} {branch : Check.Options} {w : Watcher}
    (hbranch : Check.branchEntries around = .ok branch)
    (h : Watcher.ofRecord? id (Value.mapOf
      ([("assign_id", .integer id), ("lhs_text", .string lhsText), ("rhs_text", .string rhsText),
        ("lhs_type", .string lhsType), ("rhs_type", .string rhsType)] ++ Check.targetEntry lhs ++
        branch)) = some w) : ∃ span, lhs = .named span w.name := by
  have hbranches : branch = [] ∨ ∃ i j : Int,
      branch = [("if_id", .integer i), ("branch_index", .integer j)] := by
    unfold Check.branchEntries at hbranch
    split at hbranch
    · cases hbranch
      exact .inl rfl
    · cases hbranch
      exact .inr ⟨_, _, rfl⟩
    · cases hbranch
  rcases hbranches with rfl | ⟨i, j, rfl⟩
  · cases lhs <;> cases h
  · cases lhs with
    | named span name =>
      cases h
      exact ⟨span, rfl⟩
    | _ => cases h

/-- An action that passes keeps the targets: an assignment adds a watcher of its own target, and any
other action leaves the records and binds names at most. -/
theorem lasting_targeted (setting : Setting) : Lasting setting Targeted where
  action := by
    intro a kind s u hk h ht
    cases ha : Check.setsRecord a with
    | true =>
      cases a with
      | assign lhs rhs id =>
        obtain ⟨-, lhsText, rhsText, lhsType, rhsType, branch, -, -, hlhs, -, -, hbranch, rfl⟩ :=
          Check.assignment_passes h
        intro w hmem
        rw [SymbolTable.apply] at hmem ⊢
        rw [lookup_setRecord]
        obtain ⟨n, hn⟩ := mem_watchers_iff.1 hmem
        rw [assigned_setRecord] at hn
        rcases Keyed.mem_put hn with heq | hold
        · obtain ⟨span, rfl⟩ := named_of_watcher hbranch (Prod.ext_iff.1 heq).2.symm
          cases Check.target_of_typeOf hlhs with
          | bound hv => exact .inl (by rw [hv]; exact Option.some_ne_none _)
          | path _ hpath => exact .inr hpath
        · exact ht w (mem_watchers_iff.2 ⟨n, hold⟩)
      | _ => cases ha
    | false =>
      have hrecords := records_check ha h .assignments
      obtain ⟨ds, v, hr, rfl⟩ := h
      obtain ⟨ws, -, hws⟩ := Check.action_tame a ⟨kind, setting.host⟩ { s with diagnostics := ds }
      obtain ⟨-, es, hafter, -⟩ := hws _ (.refl _)
      rw [hr] at hafter
      refine ht.of_same ?_ fun name hname => ?_
      · have hassignments : v.table.assignments = s.table.assignments := hrecords
        unfold SymbolTable.watchers
        rw [hassignments]
      · have htable : v.table = s.table.applyAll ws := congrArg Session.table hafter
        rw [htable]
        exact bound_applyAll ws hname
  recorded := by
    intro t id v ht
    have hassignments : (t.setRecord .conditionals id v).assignments = t.assignments :=
      SymbolTable.records_setRecord_of_ne t
        (by decide : RecordKind.conditionals ≠ .assignments) id v
    refine ht.of_same ?_ fun name hname => ?_
    · unfold SymbolTable.watchers
      rw [hassignments]
    · rwa [lookup_setRecord]

/-! ## The index of an analysis -/

/-- What lasts through the runs of its commands lasts through a pass. -/
theorem Lasting.course {P : SymbolTable → Prop} (h : Lasting setting P) {p q : Pass}
    {es es' : List Entry} (hp : p.session.table.Reachable) (ht : P p.session.table.contents)
    (hcourse : Pass.Course setting p es es' q) : P q.session.table.contents := by
  induction hcourse with
  | done p => exact ht
  | idle ha es => exact ht
  | @step p u q e rest rest' c ha hcommand hrest ih =>
    obtain ⟨-, hsame, -⟩ := Pass.command_settled ha hcommand
    have hreachable := (closed_command setting e.command hp).reachable
    have hleft := h.run e.command hp ht
    rw [← hsame] at hreachable hleft
    exact ih hreachable hleft

/-- The keys of an index are the names of its watchers. -/
theorem mem_keys_indexEntries {ws : List Watcher} {name : String} :
    name ∈ Keyed.keys (indexEntries ws) ↔ ∃ w ∈ ws, w.name = name := by
  constructor
  · intro h
    obtain ⟨⟨key, v⟩, hmem, rfl⟩ := List.mem_map.1 h
    have hfound := Keyed.lookup_of_mem (nodup_indexEntries ws) hmem
    rw [lookup_indexEntries] at hfound
    cases hws : ws.filter fun w => w.name = key with
    | nil =>
      rw [hws] at hfound
      cases hfound
    | cons w rest =>
      have hw : w ∈ ws.filter fun w => w.name = key := by
        rw [hws]
        exact List.mem_cons_self
      obtain ⟨hmem, hname⟩ := List.mem_filter.1 hw
      exact ⟨w, hmem, of_decide_eq_true hname⟩
  · rintro ⟨w, hw, rfl⟩
    have hfilter : w ∈ ws.filter fun v => v.name = w.name :=
      List.mem_filter.2 ⟨hw, decide_eq_true rfl⟩
    have hsome : (ws.filter fun v => v.name = w.name).isEmpty = false := by
      rw [List.isEmpty_eq_false_iff]
      exact List.ne_nil_of_mem hfilter
    have hfound := lookup_indexEntries ws w.name
    dsimp only at hfound
    rw [hsome] at hfound
    exact List.mem_map.2 ⟨_, Keyed.mem_of_lookup hfound, rfl⟩

theorem watchers_indexWatchers (t : SymbolTable) : t.indexWatchers.watchers = t.watchers := by
  have hsame : t.indexWatchers.assignments = t.assignments :=
    t.records_apply (w := .setSingleton .watcherIndex t.watcherIndex) rfl .assignments
  unfold SymbolTable.watchers
  rw [hsame]

/-- The targets and the index of an analysis to its end. -/
theorem Script.analyze_targeted {table : SymbolTable} {script : Script} {a : Analysis}
    (hr : table.Reachable) (ht : Targeted table) (h : script.analyze setting table = .ok a)
    (hend : a.pass.aborted = false) :
    Targeted a.table ∧
      a.table.singleton .watcherIndex = some (.map (indexEntries a.table.watchers)) := by
  obtain ⟨p, hthrough, -, htable⟩ := Script.analyze_ended h hend
  have htargeted : Targeted p.session.table :=
    (lasting_targeted setting).course (p := { session := { table } }) hr ht
      (Pass.course_of_through hthrough)
  rw [htable]
  constructor
  · refine htargeted.of_same (watchers_indexWatchers _) fun name hname => ?_
    rwa [lookup_indexWatchers]
  · rw [singleton_indexWatchers, watcherIndex_eq, watchers_indexWatchers]

/-- An assignment to a variable that passes leaves a record with the types of both sides: they are
the same, or one is that of integers and the other that of doubles, and the type of the target is
that of the value bound to the name, unless the name is not bound and looks like a path. So every
key of the watcher index of an analysis to its end is bound or looks like a path. -/
theorem assignment_targets (setting : Setting) :
    (∀ (status : Status) (span : Option Span) (name : String) (rhs : Expr) (id : Int)
      (s : Session),
      (runCommand setting (.action status (.assign (.named span name) rhs id)) s).ending =
        .ok true →
      ∃ (lhsType rhsType : ValueType) (fields : List (String × Option Value)),
        (runCommand setting (.action status (.assign (.named span name) rhs id))
          s).session.table.record .assignments id = some (.map fields) ∧
        fields.lookup "lhs_name" = some (some (.string name)) ∧
        fields.lookup "lhs_type" = some (some (.string lhsType.name)) ∧
        fields.lookup "rhs_type" = some (some (.string rhsType.name)) ∧
        Check.Fits lhsType rhsType ∧
        (runCommand setting (.action status (.assign (.named span name) rhs id))
          s).session.table.lookup = s.table.lookup ∧
        Check.Target s.table name lhsType) ∧
    ∀ (table : SymbolTable) (script : Script) (a : Analysis), table.Reachable → Targeted table →
      script.analyze setting table = .ok a → a.pass.aborted = false →
      ∃ index, a.table.singleton .watcherIndex = some (.map index) ∧
        ∀ name ∈ Keyed.keys index,
          a.table.lookup name ≠ none ∨ Path.looksLikePath name = true := by
  refine ⟨fun status span name rhs id s h => ?_, fun table script a hr ht h hend => ?_⟩
  · rw [runCommand] at h ⊢
    exact runAction_assigned h
  · obtain ⟨htargeted, hindex⟩ := Script.analyze_targeted hr ht h hend
    refine ⟨_, hindex, fun name hname => ?_⟩
    obtain ⟨w, hw, rfl⟩ := mem_keys_indexEntries.1 hname
    exact htargeted w hw

theorem assignment_targets_branches :
    (runCommand {} (assignZero "Q" 5) boundOnce).ending = .ok true ∧
      (∃ lhsType, Check.Target boundOnce.table "Q" lhsType ∧ lhsType = .integer) ∧
      ∃ a index, watchedBranches.analyze {} boundOnce.table = .ok a ∧
        a.table.singleton .watcherIndex = some (.map index) ∧
        ∀ name ∈ Keyed.keys index, a.table.lookup name ≠ none ∨ Path.looksLikePath name = true := by
  have hpassed : (runCommand {} (assignZero "Q" 5) boundOnce).ending = .ok true := rfl
  obtain ⟨a, h⟩ : ∃ a, watchedBranches.analyze {} boundOnce.table = .ok a := ⟨_, rfl⟩
  have hend : a.pass.aborted = false := by
    cases h
    rfl
  have hstart : Targeted boundOnce.table := .of_unassigned rfl
  obtain ⟨hone, hall⟩ := assignment_targets {}
  obtain ⟨lhsType, rhsType, fields, -, -, -, -, -, -, htarget⟩ := hone _ _ "Q" _ 5 _ hpassed
  obtain ⟨index, hindex, hkeys⟩ := hall boundOnce.table watchedBranches a
    (.apply .empty (.declare "Q" (.integer 1))) hstart h hend
  refine ⟨hpassed, ⟨lhsType, htarget, ?_⟩, a, index, h, hindex, hkeys⟩
  cases htarget with
  | bound hv =>
    cases hv
    rfl
  | path hfree => cases hfree

/-- An assignment in a conditional to a name that is not bound and looks like a path. -/
def pathAssigned : Script :=
  { blocks := [{ kind := .gui, commands := [.conditional {}
      [.mk none (.literal none (.bool true))
        [.action {} (.assign (.named none "a.gif") (textSlot "x") 1)]] [] 1] }] }

/-- A name that is not bound is written, and the watcher index has it as a key. -/
theorem assignment_targets_path :
    (runCommand {} (.action {} (.assign (.named none "a.gif") (textSlot "x") 1)) {}).ending =
        .ok true ∧
      SymbolTable.lookup {} "a.gif" = none ∧
      ∃ a index, pathAssigned.analyze {} {} = .ok a ∧ a.pass.aborted = false ∧
        a.table.singleton .watcherIndex = some (.map index) ∧
        "a.gif" ∈ Keyed.keys index ∧ a.table.lookup "a.gif" = none := by
  obtain ⟨a, h⟩ : ∃ a, pathAssigned.analyze {} {} = .ok a := ⟨_, rfl⟩
  have hend : a.pass.aborted = false := by
    cases h
    rfl
  have hassigned : a.table.assigned = [(1, some ⟨"a.gif", 1, 0, 1⟩)] := by
    cases h
    rfl
  have hfree : a.table.lookup "a.gif" = none := by
    cases h
    rfl
  have hindex := (Script.analyze_targeted .empty (.of_unassigned rfl) h hend).2
  refine ⟨rfl, rfl, a, _, h, hend, hindex, mem_keys_indexEntries.2 ?_, hfree⟩
  refine ⟨⟨"a.gif", 1, 0, 1⟩, mem_watchers_iff.2 ⟨1, ?_⟩, rfl⟩
  rw [hassigned]
  exact List.mem_singleton_self _

end DialogScript
