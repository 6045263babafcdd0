import DialogScript.Proofs.Analysis.Accounting
import DialogScript.Proofs.Running.Placed

/-!
The watcher index of an analysis. An analysis to its end leaves one record for each assignment that
it has passed, under the number of the assignment, and the records tell where the assignments stand.
If the numbers differ, no record takes the place of another, and the index that is read off them
names exactly the valid assignments to a variable that stand in a conditional.
-/

namespace DialogScript

/-- The commands of a script that an analysis to its end reaches, each with where it stands. -/
def Script.placed (script : Script) : List Placed :=
  (schedule script.blocks).flatMap fun e => e.command.placed none

/-- The valid assignments to variables that stand in conditionals, in the order of analysis. -/
def Script.watchers (script : Script) : List Watcher := script.placed.filterMap Placed.watcher?

/-- The numbers of the assignments of a script that an analysis to its end reaches. -/
def Script.assignmentIds (script : Script) : List Int :=
  script.reached.filterMap Command.assignmentId?

variable {setting : Setting}

/-! ## The records of a pass -/

/-- A pass that comes to its end leaves what its commands leave one by one. -/
theorem leaves_through {p q : Pass} {es es' : List Entry} (hc : entryFaults es = 0)
    (ht : p.session.table.Reachable)
    (hb : p.session.around.conditional = none ∧ p.session.around.branch = none)
    (h : Pass.through setting p es = .ok (es', q)) (hq : q.aborted = false) :
    Leaves setting p.session.table.contents (es'.flatMap fun e => e.command.placed none)
      q.session.table.contents := by
  replace h := Pass.course_of_through h
  induction h with
  | done p => exact .nil _
  | idle ha es =>
    rw [ha] at hq
    cases hq
  | @step p u q e rest rest' c ha hcommand hrest ih =>
    rw [entryFaults_cons] at hc
    obtain ⟨rfl, hsession, passed, hr⟩ := Pass.command_ended ha hcommand (hrest.running hq)
    have closed := closed_command setting e.command ht
    have hfirst : Leaves setting p.session.table.contents
        ((runCommand setting e.command p.session).tree.placed none)
        (runCommand setting e.command p.session).session.table.contents :=
      leaves_run (by omega) ht hb hr
    have hothers := ih (by omega)
    rw [hsession, closed.around] at hothers
    rw [List.flatMap_cons]
    exact hfirst.append (hothers closed.reachable hb hq)

/-- A pass that comes to its end leaves the records of the assignments that pass in it. -/
theorem stored_through {p q : Pass} {es es' : List Entry} (hc : entryFaults es = 0)
    (ht : p.session.table.Reachable)
    (hb : p.session.around.conditional = none ∧ p.session.around.branch = none)
    (h : Pass.through setting p es = .ok (es', q)) (hq : q.aborted = false) :
    Stored p.session.table q.session.table (es'.flatMap fun e => e.command.placed none) :=
  (leaves_through hc ht hb h hq).stored

/-! ## Numbers -/

theorem Script.map_placed (script : Script) :
    script.placed.map Placed.command = script.reached := by
  unfold Script.placed Script.reached
  rw [List.map_flatMap]
  exact congrArg (List.flatMap · _) (funext fun e => Command.map_placed none e.command)

theorem assignmentId?_markInvalid (c : Command) :
    c.markInvalid.assignmentId? = c.assignmentId? := by
  cases c with
  | action status a => cases a <;> rfl
  | _ => rfl

/-- A number that a command has, whether or not it is marked and whatever stands in it. -/
structure Numbering (f : Command → Option Int) : Prop where
  marked : ∀ c, f c.markInvalid = f c
  conditional : ∀ status branches branches' otherwise otherwise' id,
    f (.conditional status branches otherwise id) = f (.conditional status branches' otherwise' id)

theorem numbering_assignmentId? : Numbering Command.assignmentId? :=
  ⟨assignmentId?_markInvalid, fun _ _ _ _ _ _ => rfl⟩

namespace Numbering

variable {f : Command → Option Int}

theorem finish (hf : Numbering f) (u : Session) (kind : CommandKind) (c : Command)
    (r : Except Setback Unit) : f (u.finish kind c r).tree = f c := by
  rcases tree_finish u kind c r with h | h
  · rw [h]
  · rw [h, hf.marked]

/-- A run does not change the number of a command. -/
theorem tree (hf : Numbering f) (setting : Setting) (v : Visit) :
    f (v.tree setting) = f v.command := by
  obtain ⟨c, s⟩ := v
  show f (runCommand setting c s).tree = f c
  by_cases halone : c.RunsAlone setting
  · have htree : (runCommand setting c s).tree = c ∨
        (runCommand setting c s).tree = c.markInvalid := tree_alone halone
    rcases htree with h | h
    · rw [h]
    · rw [h, hf.marked]
  · cases c with
    | conditional status branches otherwise id =>
      -- However it ends, a conditional is left.
      obtain ⟨bs, cs, v, r, h⟩ := conducted halone s
      rw [h.run]
      exact (hf.finish _ _ _ _).trans (hf.conditional _ _ _ _ _ _)
    | _ => exact absurd trivial halone

end Numbering

/-- The numbers with records are some of those of the reached assignments. -/
theorem stored_sublist (ps : List Placed) :
    (Keyed.keys (ps.filterMap Placed.stored?)).Sublist
      ((ps.map Placed.command).filterMap Command.assignmentId?) := by
  induction ps with
  | nil => exact .slnil
  | cons p rest ih =>
    obtain ⟨c, around⟩ := p
    cases c with
    | action status a =>
      cases a with
      | assign lhs rhs id =>
        rw [List.filterMap_cons]
        unfold Placed.stored?
        dsimp only
        split
        · rename_i hnone
          exact ih.cons id
        · rename_i stored hsome
          split at hsome
          · cases hsome
            exact ih.cons_cons id
          · cases hsome
      | _ => exact ih
    | _ => exact ih

/-! ## Reading the records -/

/-- The watchers of a table, ordered by their numbers. -/
theorem watchers_perm (t : SymbolTable) :
    t.watchers.Perm (t.assigned.filterMap Prod.snd) := by
  have hmap : t.assigned.filterMap Prod.snd =
      t.assignments.filterMap fun r => Watcher.ofRecord? r.1 r.2.value := by
    unfold SymbolTable.assigned
    rw [List.filterMap_map]
    rfl
  rw [hmap]
  exact (List.mergeSort_perm _ _).filterMap _

theorem assignment_ofRecord? {id : Int} {v : Value} {w : Watcher}
    (h : Watcher.ofRecord? id v = some w) : w.assignment = id := by
  unfold Watcher.ofRecord? at h
  split at h
  · split at h
    · cases h
      rfl
    · cases h
  · cases h

theorem watchers_sorted {t : SymbolTable} (h : (Keyed.keys t.assigned).Nodup) :
    t.watchers.Pairwise fun v w => v.assignment < w.assignment := by
  let le (a b : Int × Record) : Bool := a.1 ≤ b.1
  have hle : (t.assignments.mergeSort le).Pairwise fun a b => le a b = true :=
    List.pairwise_mergeSort (fun a b c hab hbc => by simp only [le, decide_eq_true_eq] at *; omega)
      (fun a b => by simp only [le, Bool.or_eq_true, decide_eq_true_eq]; omega) _
  have hne : (t.assignments.mergeSort le).Pairwise fun a b => a.1 ≠ b.1 := by
    have hkeys : (t.assignments.map Prod.fst).Nodup := by
      unfold Keyed.keys SymbolTable.assigned at h
      rwa [List.map_map] at h
    have hperm := (List.mergeSort_perm t.assignments le).map Prod.fst
    exact List.pairwise_map.1 (hperm.nodup_iff.2 hkeys)
  refine (hle.and hne).filterMap _ fun a b hab v hv w hw => ?_
  rw [assignment_ofRecord? hv, assignment_ofRecord? hw]
  have hle' : a.1 ≤ b.1 := by simpa [le] using hab.1
  have hne' := hab.2
  omega

/-! ## Grouping -/

theorem lookup_foldl_addTo (ws : List Watcher) (entries : List (String × List Value))
    (name : String) :
    (ws.foldl Watcher.addTo entries).lookup name =
      Keyed.extended (entries.lookup name)
        ((ws.filter fun w => w.name = name).map Watcher.entry) := by
  induction ws generalizing entries with
  | nil => rfl
  | cons w rest ih =>
    rw [List.foldl_cons, ih, Watcher.addTo, Keyed.lookup_put]
    by_cases hw : w.name = name
    · subst hw
      have hone : some ((entries.lookup w.name).getD [] ++ [w.entry]) =
          Keyed.extended (entries.lookup w.name) [w.entry] := rfl
      rw [if_pos rfl, hone, Keyed.extended_extended, List.filter_cons_of_pos (by simp)]
      rfl
    · rw [if_neg (Ne.symm hw), List.filter_cons_of_neg (by simpa using hw)]

theorem nodup_foldl_addTo (ws : List Watcher) {entries : List (String × List Value)}
    (h : (Keyed.keys entries).Nodup) : (Keyed.keys (ws.foldl Watcher.addTo entries)).Nodup := by
  induction ws generalizing entries with
  | nil => exact h
  | cons w rest ih => exact ih (Keyed.nodup_keys_put h _ _)

/-- The entries of a watcher index. -/
def indexEntries (ws : List Watcher) : List (String × Option Value) :=
  (ws.foldl Watcher.addTo []).map fun e => (e.1, some (.array e.2))

theorem watcherIndex_eq (t : SymbolTable) : t.watcherIndex = .map (indexEntries t.watchers) := by
  unfold SymbolTable.watcherIndex Value.mapOf indexEntries
  rw [List.map_map]
  rfl

theorem nodup_indexEntries (ws : List Watcher) : (Keyed.keys (indexEntries ws)).Nodup := by
  have hgroups : (Keyed.keys (ws.foldl Watcher.addTo [])).Nodup :=
    nodup_foldl_addTo ws List.nodup_nil
  unfold Keyed.keys indexEntries at *
  rwa [List.map_map]

theorem lookup_indexEntries (ws : List Watcher) (name : String) :
    (indexEntries ws).lookup name =
      let found := ws.filter fun w => w.name = name
      if found.isEmpty then none else some (some (.array (found.map Watcher.entry))) := by
  dsimp only
  unfold indexEntries
  rw [Keyed.lookup_map_snd (fun vs => some (Value.array vs)), lookup_foldl_addTo]
  cases ws.filter fun w => w.name = name <;> rfl

theorem singleton_indexWatchers (t : SymbolTable) :
    t.indexWatchers.singleton .watcherIndex = some t.watcherIndex := by
  have hlog (t : SymbolTable) (e : Undo) :
      (t.log e).singleton .watcherIndex = t.singleton .watcherIndex := by
    unfold SymbolTable.log
    split <;> rfl
  unfold SymbolTable.indexWatchers SymbolTable.setSingleton
  rw [hlog]
  exact Keyed.lookup_put_self _ _ _

/-! ## The whole script -/

/-- The numbers of the commands are those of the script before its analysis. -/
theorem Numbering.analyzed {f : Command → Option Int} (hnum : Numbering f) {table : SymbolTable}
    {script : Script} {p : Pass} {blocks : List Block}
    (hf : entryFaults (schedule script.blocks) = 0)
    (h : Pass.through setting { session := { table } } (schedule script.blocks) =
      .ok (schedule blocks, p)) (hp : p.aborted = false) :
    (Script.reached { script with blocks }).filterMap f = script.reached.filterMap f := by
  have hcompleted := completed_through hf h hp
  unfold Script.reached
  dsimp only
  rw [← hcompleted.commands, ← hcompleted.trees, List.filterMap_map, List.filterMap_map]
  exact congrArg (List.filterMap · _) (funext fun v => hnum.tree setting v)

/-- The numbers of the assignments are those of the script before its analysis. -/
theorem Script.assignmentIds_analyzed {table : SymbolTable} {script : Script} {p : Pass}
    {blocks : List Block} (hf : entryFaults (schedule script.blocks) = 0)
    (h : Pass.through setting { session := { table } } (schedule script.blocks) =
      .ok (schedule blocks, p)) (hp : p.aborted = false) :
    Script.assignmentIds { script with blocks } = script.assignmentIds :=
  numbering_assignmentId?.analyzed hf h hp

/-- The watcher index of an analysis to its end. It has one key for each variable that a valid
assignment in a conditional writes, and under it the places of those assignments, each once and in
the order of their numbers. -/
theorem Script.analyze_watchers {table : SymbolTable} {script : Script} {a : Analysis}
    (h : script.analyze setting table = .ok a) (hf : ∀ f ∈ script.flags, f = true)
    (hn : script.assignmentIds.Nodup) (ht : table.Reachable) (he : table.assignments = [])
    (hend : a.pass.aborted = false) :
    ∃ index, a.table.singleton .watcherIndex = some (.map index) ∧ (Keyed.keys index).Nodup ∧
      ∀ name, ∃ ws : List Watcher, ws.Perm (a.script.watchers.filter fun w => w.name = name) ∧
        (ws.Pairwise fun v w => v.assignment < w.assignment) ∧
        index.lookup name =
          if ws.isEmpty then none else some (some (.array (ws.map Watcher.entry))) := by
  obtain ⟨p, hthrough, hp, htable⟩ := Script.analyze_ended h hend
  have hfresh : entryFaults (schedule script.blocks) = 0 := entryFaults_unmarked hf
  -- The records are those of the valid assignments, each under its number.
  have hstored := stored_through hfresh ht ⟨rfl, rfl⟩ hthrough hp
  have hkeys : (Keyed.keys (a.script.placed.filterMap Placed.stored?)).Nodup := by
    refine List.Nodup.sublist (stored_sublist _) ?_
    rw [Script.map_placed]
    have hids : a.script.assignmentIds = script.assignmentIds :=
      Script.assignmentIds_analyzed hfresh hthrough hp
    rw [← hids] at hn
    exact hn
  have hassigned : p.session.table.assigned = a.script.placed.filterMap Placed.stored? := by
    have hnone : table.assigned = [] := by
      unfold SymbolTable.assigned
      rw [he]
      rfl
    unfold Stored at hstored
    rw [hstored, hnone]
    exact Keyed.foldl_put hkeys
  have hwatchers : p.session.table.watchers.Perm a.script.watchers := by
    have hperm := watchers_perm p.session.table
    rw [hassigned, List.filterMap_filterMap] at hperm
    have hsame : (fun q : Placed => q.stored?.bind Prod.snd) = Placed.watcher? :=
      funext fun q => (Placed.watcher?_eq q).symm
    rw [hsame] at hperm
    exact hperm
  have hsorted := watchers_sorted (hassigned ▸ hkeys)
  refine ⟨indexEntries p.session.table.watchers, ?_, nodup_indexEntries _, fun name => ?_⟩
  · rw [htable, singleton_indexWatchers, watcherIndex_eq]
  · exact ⟨_, hwatchers.filter _, hsorted.filter _, lookup_indexEntries _ name⟩

/-- An assignment of zero to a variable. -/
def assignZero (name : String) (id : Int) : Command :=
  .action {} (.assign (.named none name) (.literal none (.integer (.number 0))) id)

/-- Assignments outside a conditional, in its branch, in its last alternative, and, in a conditional
that fails with the one around it, to a name that is not bound. -/
def watchedBranches : Script :=
  { blocks := [{ kind := .gui, commands := [assignZero "Q" 5,
      .conditional {} [.mk none (.literal none (.bool true)) [assignZero "Q" 3,
        .conditional {} [.mk none (.named none "R") [assignZero "R" 2]] [assignZero "Q" 4] 8]]
        [assignZero "Q" 1] 7] }] }

theorem analyze_watchers_branches :
    ∃ a, watchedBranches.analyze {} boundOnce.table = .ok a ∧ ∃ index,
      a.table.singleton .watcherIndex = some (.map index) ∧ index.lookup "R" = none ∧
      ∃ ws : List Watcher, ws.Perm [⟨"Q", 7, 0, 3⟩, ⟨"Q", 8, -1, 4⟩, ⟨"Q", 7, -1, 1⟩] ∧
        (ws.Pairwise fun v w => v.assignment < w.assignment) ∧
        index.lookup "Q" = some (some (.array (ws.map Watcher.entry))) := by
  obtain ⟨a, h⟩ : ∃ a, watchedBranches.analyze {} boundOnce.table = .ok a := ⟨_, rfl⟩
  have hend : a.pass.aborted = false := by
    cases h
    rfl
  have hfound : (a.script.watchers.filter fun w => w.name = "Q") =
      [⟨"Q", 7, 0, 3⟩, ⟨"Q", 8, -1, 4⟩, ⟨"Q", 7, -1, 1⟩] := by
    cases h
    decide
  have hnone : (a.script.watchers.filter fun w => w.name = "R") = [] := by
    cases h
    decide
  obtain ⟨index, hindex, -, hentries⟩ := Script.analyze_watchers h (by decide) (by decide)
    (.apply .empty (.declare "Q" (.integer 1))) rfl hend
  obtain ⟨vs, hvs, -, hr⟩ := hentries "R"
  obtain ⟨ws, hws, hsorted, hq⟩ := hentries "Q"
  rw [hnone, List.perm_nil] at hvs
  rw [hfound] at hws
  refine ⟨a, h, index, hindex, by rw [hr, hvs]; rfl, ws, hws, hsorted, ?_⟩
  have hsome : ws.isEmpty = false := by
    rw [List.isEmpty_eq_false_iff]
    exact fun hnil => by simpa [hnil] using hws.length_eq
  rw [hq, hsome]
  rfl

end DialogScript
