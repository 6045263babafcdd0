import DialogScript.Proofs.Analysis.Watching
import DialogScript.Proofs.Running.Sourced
import Mathlib.Data.List.Pairwise

/-!
The two indexes of conditional assignments. An analysis to its end tells twice where an assignment
stands: in the record of the assignment, which is set while the branch around it is run, and in the
lists of the conditional around it, which are read off the tree after its branches have been run. If
the numbers of conditionals differ, and those of assignments, the two agree.
-/

namespace DialogScript

namespace Command

/-- The number of a conditional. -/
def conditionalId? : Command → Option Int
  | conditional _ _ _ id => some id
  | _ => none

theorem numbering_conditionalId? : Numbering conditionalId? := by
  refine ⟨fun c => ?_, fun _ _ _ _ _ _ => rfl⟩
  cases c <;> rfl

theorem assignmentId?_of_assignedId? {c : Command} {i : Int} (h : c.assignedId? = some i) :
    c.assignmentId? = some i := by
  unfold assignedId? at h
  split at h
  · split at h
    · exact h
    · cases h
  · cases h

end Command

/-- The numbers of the conditionals of a script that an analysis to its end reaches. -/
def Script.conditionalIds (script : Script) : List Int :=
  script.reached.filterMap Command.conditionalId?

/-- The record of an assignment says that it stands in a branch of a conditional. -/
def SymbolTable.StandsIn (t : SymbolTable) (assignment conditional branch : Int) : Prop :=
  ∃ v, t.record .assignments assignment = some v ∧
    v.field? "if_id" = some (.integer conditional) ∧
    v.field? "branch_index" = some (.integer branch)

/-- The record of a conditional agrees with those of the assignments. It has one list for each
branch and one more, and each list names the assignments whose records say that they stand there. -/
structure SymbolTable.Agrees (t : SymbolTable) (conditional : Int) (v : Value) (count : Nat)
    (lists : List (List Int)) : Prop where
  branchCount : v.field? "branch_count" = some (.integer count)
  branchLists : v.field? "branch_assignments" =
    some (.array (lists.map fun ids => .array (ids.map Value.integer)))
  length : lists.length = count + 1
  branch : ∀ k < count, ∀ i,
    (∃ ids, lists[k]? = some ids ∧ i ∈ ids) ↔ t.StandsIn i conditional k
  last : ∀ i, (∃ ids, lists[count]? = some ids ∧ i ∈ ids) ↔ t.StandsIn i conditional (-1)
  any : ∃ has, v.field? "has_assignments" = some (.bool has) ∧
    (has = true ↔ ∃ ids ∈ lists, ids ≠ [])

/-! ## The lists of a conditional -/

theorem assignmentIds_eq (cs : List Command) :
    assignmentIds cs = cs.filterMap Command.assignedId? := by
  induction cs with
  | nil => rfl
  | cons c rest ih =>
    rw [List.filterMap_cons]
    cases c with
    | action status a =>
      cases a with
      | assign lhs rhs id =>
        rw [assignmentIds, Command.assignedId?, ih]
        cases status.valid <;> rfl
      | _ => exact ih
    | _ => exact ih

section

variable {branches : List Branch} {otherwise : List Command} {i : Int}

theorem length_branchAssignments :
    (branchAssignments branches otherwise).length = branches.length + 1 := by
  simp [branchAssignments]

/-- The list of a branch names the valid assignments that stand in the branch. -/
theorem mem_branchList {k : Nat} (hk : k < branches.length) :
    (∃ ids, (branchAssignments branches otherwise)[k]? = some ids ∧ i ∈ ids) ↔
      ∃ c, ((k : Int), c) ∈ nested branches otherwise ∧ c.assignedId? = some i := by
  have hlist : (branchAssignments branches otherwise)[k]? =
      some (branches[k].commands.filterMap Command.assignedId?) := by
    rw [branchAssignments, List.getElem?_append_left (by simpa using hk), List.getElem?_map,
      List.getElem?_eq_getElem hk, ← assignmentIds_eq]
    rfl
  have hnested (c : Command) :
      ((k : Int), c) ∈ nested branches otherwise ↔ c ∈ branches[k].commands := by
    rw [nested, List.mem_append, mem_nestedFrom]
    constructor
    · rintro (⟨j, b, hb, hj, hc⟩ | h)
      · obtain rfl : k = j := by omega
        rw [List.getElem?_eq_getElem hk] at hb
        cases hb
        exact hc
      · obtain ⟨_, -, heq⟩ := List.mem_map.1 h
        have hminus : (-1 : Int) = k := congrArg Prod.fst heq
        omega
    · exact fun hc => .inl ⟨k, branches[k], List.getElem?_eq_getElem hk, by simp, hc⟩
  rw [hlist]
  simp only [Option.some.injEq, exists_eq_left', List.mem_filterMap, hnested]

/-- The last list names the valid assignments that stand in the last alternative. -/
theorem mem_lastList :
    (∃ ids, (branchAssignments branches otherwise)[branches.length]? = some ids ∧ i ∈ ids) ↔
      ∃ c, ((-1 : Int), c) ∈ nested branches otherwise ∧ c.assignedId? = some i := by
  have hlist : (branchAssignments branches otherwise)[branches.length]? =
      some (otherwise.filterMap Command.assignedId?) := by
    rw [branchAssignments, List.getElem?_append_right (by simp), ← assignmentIds_eq]
    simp
  have hnested (c : Command) : ((-1 : Int), c) ∈ nested branches otherwise ↔ c ∈ otherwise := by
    rw [nested, List.mem_append, mem_nestedFrom]
    constructor
    · rintro (⟨j, b, -, hj, -⟩ | h)
      · have hminus : (-1 : Int) = ((0 + j : Nat) : Int) := hj
        omega
      · obtain ⟨c', hc, heq⟩ := List.mem_map.1 h
        cases heq
        exact hc
    · exact fun hc => .inr (List.mem_map.2 ⟨c, hc, rfl⟩)
  rw [hlist]
  simp only [Option.some.injEq, exists_eq_left', List.mem_filterMap, hnested]

end

/-! ## Agreement -/

/-- Different numbers tell the entries apart that have them. -/
theorem eq_of_nodup_filterMap {α β : Type} {f : α → Option β} {l : List α}
    (h : (l.filterMap f).Nodup) {a b : α} (ha : a ∈ l) (hb : b ∈ l) {c : β} (hfa : f a = some c)
    (hfb : f b = some c) : a = b := by
  let R : α → α → Prop := fun a b => ∀ x, f a = some x → ∀ y, f b = some y → x ≠ y
  have hsymm : Std.Symm R := ⟨fun _ _ hxy x hx y hy => (hxy y hy x hx).symm⟩
  have hdiffer : l.Pairwise R := List.pairwise_filterMap.1 h
  exact Classical.byContradiction fun hne => hdiffer.forall ha hb hne c hfa c hfb rfl

/-- The records of a table are those of some placed commands, among which is each command that
stands in one of them. Their numbers differ. -/
structure Indexed (t : SymbolTable) (ps : List Placed) : Prop where
  inner : ∀ p q, p.Within q → q ∈ ps → p ∈ ps
  outer : ∀ p ∈ ps, p.around = none ∨ ∃ q ∈ ps, p.Within q
  made : ∀ kind, ∀ p ∈ ps, ∀ id, p.recordId? kind = some id → t.record kind id ≠ none
  source : ∀ kind id v, t.record kind id = some v →
    ∃ p ∈ ps, p.recordId? kind = some id ∧ p.HasRecord kind v
  assignments : (ps.filterMap fun p => p.command.assignmentId?).Nodup
  conditionals : (ps.filterMap fun p => p.command.conditionalId?).Nodup

namespace Indexed

variable {t : SymbolTable} {ps : List Placed}

/-- The record of an assignment names the conditional and the branch that hold it. -/
theorem standsIn_iff (h : Indexed t ps) {status : Status} {branches : List Branch}
    {otherwise : List Command} {n : Int} {around : Option (Int × Int)}
    (hq : ⟨.conditional status branches otherwise n, around⟩ ∈ ps) (hb : branches ≠ [])
    (i branch : Int) :
    t.StandsIn i n branch ↔
      ∃ c, (branch, c) ∈ nested branches otherwise ∧ c.assignedId? = some i := by
  constructor
  · rintro ⟨v, hv, hid, hbranch⟩
    obtain ⟨p, hp, hi, hrecord⟩ := h.source .assignments i v hv
    obtain ⟨command, place⟩ := p
    obtain ⟨hid', hbranch'⟩ : v.field? "if_id" = _ ∧ v.field? "branch_index" = _ := hrecord
    rw [hid] at hid'
    rw [hbranch] at hbranch'
    -- The record names a place, so the assignment stands in some conditional of this number.
    obtain ⟨place, rfl⟩ : ∃ found, place = some found :=
      Option.ne_none_iff_exists'.1 fun hnone => by simp [hnone] at hid'
    rcases h.outer _ hp with hnone | ⟨q, hq', _, branches', otherwise', id, branch', hcommand, -,
      haround, hmem⟩
    · cases hnone
    cases haround
    cases hid'
    cases hbranch'
    have hsame : q = ⟨.conditional status branches otherwise id, around⟩ :=
      eq_of_nodup_filterMap h.conditionals hq' hq (by rw [hcommand]; rfl) rfl
    rw [hsame] at hcommand
    cases hcommand
    exact ⟨command, hmem, hi⟩
  · -- The assignment has a record, and no other command could have left it under this number.
    rintro ⟨c, hmem, hi⟩
    have hp : ⟨c, some (n, branch)⟩ ∈ ps :=
      h.inner _ _ ⟨status, branches, otherwise, _, branch, rfl, hb, rfl, hmem⟩ hq
    obtain ⟨v, hv⟩ := Option.ne_none_iff_exists'.1 (h.made .assignments _ hp i hi)
    obtain ⟨p, hp', hi', hrecord⟩ := h.source .assignments i v hv
    have hsame : p = ⟨c, some (n, branch)⟩ :=
      eq_of_nodup_filterMap h.assignments hp' hp (Command.assignmentId?_of_assignedId? hi')
        (Command.assignmentId?_of_assignedId? hi)
    rw [hsame] at hrecord
    exact ⟨v, hv, hrecord⟩

/-- The record of a conditional is the one it was left with, and agrees with the others. -/
theorem agrees (h : Indexed t ps) {n : Int} {v : Value} (hv : t.record .conditionals n = some v) :
    ∃ count lists, t.Agrees n v count lists := by
  obtain ⟨⟨c, around⟩, hq, hid, status, branches, otherwise, id, hcommand, hrecord⟩ :=
    h.source .conditionals n v hv
  obtain rfl : c = .conditional status branches otherwise id := hcommand
  obtain ⟨condition, -, hmade⟩ := except_bind_ok hrecord
  cases hmade
  obtain ⟨hb, rfl⟩ : branches ≠ [] ∧ id = n := by
    simpa [Placed.recordId?, Command.branchedId?] using hid
  refine ⟨branches.length, branchAssignments branches otherwise, rfl, rfl,
    length_branchAssignments, fun k hk i => ?_, fun i => ?_, _, rfl, ?_⟩
  · rw [mem_branchList hk, h.standsIn_iff hq hb]
  · rw [mem_lastList, h.standsIn_iff hq hb]
  · simp

/-- An assignment whose record names a conditional stands in one that has a record. -/
theorem refers (h : Indexed t ps) {i : Int} {v : Value} (hv : t.record .assignments i = some v)
    (hif : v.field? "if_id" ≠ none) :
    ∃ n, v.field? "if_id" = some (.integer n) ∧ t.record .conditionals n ≠ none := by
  obtain ⟨p, hp, -, hid, -⟩ := h.source .assignments i v hv
  rcases h.outer p hp with hnone | ⟨q, hq, _, branches, _, n, _, hcommand, hb, haround, -⟩
  · rw [hid, hnone] at hif
    exact absurd rfl hif
  · rw [haround] at hid
    refine ⟨n, hid, h.made .conditionals q hq n ?_⟩
    show q.command.branchedId? = some n
    rw [hcommand]
    exact if_neg (by simpa using hb)

end Indexed

/-! ## The whole script -/

theorem SymbolTable.record_indexWatchers (t : SymbolTable) (kind : RecordKind) (id : Int) :
    t.indexWatchers.record kind id = t.record kind id := by
  have hsame : t.indexWatchers.records kind = t.records kind :=
    SymbolTable.records_apply t (w := .setSingleton .watcherIndex t.watcherIndex) rfl kind
  unfold SymbolTable.record
  rw [hsame]

theorem Script.placed_within {script : Script} {p q : Placed} (hp : p.Within q)
    (hq : q ∈ script.placed) : p ∈ script.placed := by
  obtain ⟨e, he, hq⟩ := List.mem_flatMap.1 hq
  exact List.mem_flatMap.2 ⟨e, he, Command.placed_within none hp e.command hq⟩

theorem Script.mem_placed {script : Script} {p : Placed} (hp : p ∈ script.placed) :
    p.around = none ∨ ∃ q ∈ script.placed, p.Within q := by
  obtain ⟨e, he, hp⟩ := List.mem_flatMap.1 hp
  rcases Command.mem_placed none e.command hp with rfl | ⟨q, hq, hw⟩
  · exact .inl rfl
  · exact .inr ⟨q, List.mem_flatMap.2 ⟨e, he, hq⟩, hw⟩

/-- An analysis to its end, on a table without records, leaves those of its commands. -/
theorem Script.indexed_analyzed {setting : Setting} {table : SymbolTable} {script : Script}
    {a : Analysis} (h : script.analyze setting table = .ok a) (hf : ∀ f ∈ script.flags, f = true)
    (hc : script.conditionalIds.Nodup) (hn : script.assignmentIds.Nodup) (ht : table.Reachable)
    (he : ∀ kind, table.records kind = []) (hend : a.pass.aborted = false) :
    Indexed a.table a.script.placed := by
  obtain ⟨p, hthrough, hp, htable⟩ := Script.analyze_ended h hend
  have hfresh : entryFaults (schedule script.blocks) = 0 := entryFaults_unmarked hf
  have hrecord (kind : RecordKind) (id : Int) :
      a.table.record kind id = p.session.table.contents.record kind id := by
    rw [htable, SymbolTable.record_indexWatchers]
    rfl
  have hsourced (kind : RecordKind) :
      Sourced kind table.contents p.session.table.contents a.script.placed :=
    (leaves_through hfresh ht ⟨rfl, rfl⟩ hthrough hp).sourced kind
  have hids {f : Command → Option Int} (hnum : Numbering f)
      (hnodup : (script.reached.filterMap f).Nodup) :
      (a.script.placed.filterMap fun q => f q.command).Nodup := by
    rw [← hnum.analyzed hfresh hthrough hp] at hnodup
    have hreached : Script.reached { script with blocks := a.script.blocks } =
      a.script.placed.map Placed.command := (Script.map_placed _).symm
    rwa [hreached, List.filterMap_map] at hnodup
  refine ⟨fun q r => Script.placed_within, fun q => Script.mem_placed, fun kind q hq id hid => ?_,
    fun kind id v hv => ?_, hids numbering_assignmentId? hn,
    hids Command.numbering_conditionalId? hc⟩
  · rw [hrecord]
    exact (hsourced kind).made q hq id hid
  · rw [hrecord] at hv
    refine ((hsourced kind).source id v hv).resolve_left fun hold => ?_
    have hnone : table.contents.records kind = [] := by
      have hkind := he kind
      cases kind <;> exact hkind
    unfold SymbolTable.record at hold
    rw [hnone] at hold
    cases hold

/-- The two indexes of conditional assignments agree after an analysis to its end. The lists in the
record of a conditional name the assignments whose records say that they stand in its branches and
in its last alternative, and the conditionals that the records of assignments name have records. -/
theorem Script.analyze_agrees {setting : Setting} {table : SymbolTable} {script : Script}
    {a : Analysis} (h : script.analyze setting table = .ok a) (hf : ∀ f ∈ script.flags, f = true)
    (hc : script.conditionalIds.Nodup) (hn : script.assignmentIds.Nodup) (ht : table.Reachable)
    (he : ∀ kind, table.records kind = []) (hend : a.pass.aborted = false) :
    (∀ n v, a.table.record .conditionals n = some v →
      ∃ count lists, a.table.Agrees n v count lists) ∧
    ∀ i v, a.table.record .assignments i = some v → v.field? "if_id" ≠ none →
      ∃ n, v.field? "if_id" = some (.integer n) ∧ a.table.record .conditionals n ≠ none := by
  have hindexed := Script.indexed_analyzed h hf hc hn ht he hend
  exact ⟨fun n v hv => hindexed.agrees hv, fun i v hv hif => hindexed.refers hv hif⟩

theorem analyze_agrees_branches :
    ∃ a v count lists, watchedBranches.analyze {} boundOnce.table = .ok a ∧
      a.table.record .conditionals 7 = some v ∧ a.table.Agrees 7 v count lists ∧
      (∃ ids, lists[count]? = some ids ∧ 1 ∈ ids) ∧ a.table.record .conditionals 8 ≠ none := by
  obtain ⟨a, h⟩ : ∃ a, watchedBranches.analyze {} boundOnce.table = .ok a := ⟨_, rfl⟩
  have hend : a.pass.aborted = false := by
    cases h
    rfl
  obtain ⟨v, hv⟩ : ∃ v, a.table.record .conditionals 7 = some v := by
    cases h
    exact ⟨_, rfl⟩
  have hone : a.table.StandsIn 1 7 (-1) := by
    cases h
    exact ⟨_, rfl, rfl, rfl⟩
  obtain ⟨w, hw, hif⟩ : ∃ w, a.table.record .assignments 4 = some w ∧
      w.field? "if_id" = some (.integer 8) := by
    cases h
    exact ⟨_, rfl, rfl⟩
  obtain ⟨hagrees, hrefers⟩ := Script.analyze_agrees h (by decide) (by decide) (by decide)
    (.apply .empty (.declare "Q" (.integer 1))) (fun kind => by cases kind <;> rfl) hend
  obtain ⟨count, lists, hlists⟩ := hagrees 7 v hv
  obtain ⟨n, hn, hrecord⟩ := hrefers 4 w hw (by rw [hif]; exact nofun)
  rw [hif] at hn
  cases hn
  exact ⟨a, v, count, lists, h, hv, hlists, (hlists.last 1).2 hone, hrecord⟩

end DialogScript
