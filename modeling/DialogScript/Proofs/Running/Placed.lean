import DialogScript.Analysis.Watcher
import DialogScript.Proofs.Running.Conditional
import DialogScript.Proofs.Running.Lasting

/-!
Where commands stand, and what that leaves in the records of assignments. Each command that a run
reaches stands in the innermost conditional around it, in one of its branches or in its last
alternative. What a run to its end leaves is told command after command (`Leaves`), and the records
are read off that: a run sets one record for each assignment that passes, and it says where the
assignment stands; the records outlive the failure of every conditional around it.
-/

namespace DialogScript

/-! ## Places in a tree -/

namespace Command

mutual

/-- A command and those in it that a run to its end reaches, each with where it stands. -/
def placed (around : Option (Int × Int)) : Command → List Placed
  | conditional status branches otherwise id =>
    ⟨conditional status branches otherwise id, around⟩ ::
      if branches.isEmpty then []
      else branchPlaced id 0 branches ++ allPlaced (some (id, -1)) otherwise
  | action status a => [⟨action status a, around⟩]
  | forLoop status v option args body => [⟨forLoop status v option args body, around⟩]
  | whileLoop status condition body => [⟨whileLoop status condition body, around⟩]

/-- Some commands and those in them that a run to its end reaches. -/
def allPlaced (around : Option (Int × Int)) : List Command → List Placed
  | [] => []
  | c :: rest => placed around c ++ allPlaced around rest

/-- The commands in the branches of a conditional, from one index on. -/
def branchPlaced (id : Int) (index : Nat) : List Branch → List Placed
  | [] => []
  | .mk _ _ commands :: rest =>
    allPlaced (some (id, index)) commands ++ branchPlaced id (index + 1) rest

end

end Command

theorem placed_leaf {c : Command} (hc : c.kind? ≠ some .conditional)
    (around : Option (Int × Int)) : c.placed around = [⟨c, around⟩] := by
  cases c with
  | conditional status branches otherwise id => exact absurd rfl hc
  | action status a => rw [Command.placed]
  | forLoop status v option args body => rw [Command.placed]
  | whileLoop status condition body => rw [Command.placed]

theorem placed_conditional {bs : List Branch} (hbs : bs ≠ []) (around : Option (Int × Int))
    (status : Status) (cs : List Command) (id : Int) :
    (Command.conditional status bs cs id).placed around =
      ⟨.conditional status bs cs id, around⟩ ::
        (Command.branchPlaced id 0 bs ++ Command.allPlaced (some (id, -1)) cs) := by
  rw [Command.placed, if_neg fun he => hbs (List.isEmpty_iff.1 he)]

theorem placed_noBranch (around : Option (Int × Int)) (status : Status) (cs : List Command)
    (id : Int) : (Command.conditional status [] cs id).placed around =
      [⟨.conditional status [] cs id, around⟩] := by
  rw [Command.placed, if_pos List.isEmpty_nil]

namespace Part

/-- The commands of a part that a run to its end reaches, each with where it stands. -/
def placed : Part → List Placed
  | command around c => c.placed around
  | commands around cs => Command.allPlaced around cs
  | branch id index b => Command.allPlaced (some (id, index)) b.commands
  | branches id index bs => Command.branchPlaced id index bs
  | otherwise id cs => Command.allPlaced (some (id, -1)) cs
  | inside id bs cs => Command.branchPlaced id 0 bs ++ Command.allPlaced (some (id, -1)) cs
  | condition .. | last _ => []

theorem Splits.placed_eq {p q r : Part} (h : Splits p q r) : p.placed = q.placed ++ r.placed := by
  cases h with
  | branches id index b rest => cases b with | mk span e cs => rfl
  | _ => rfl

theorem Idle.placed_eq {p : Part} (h : Idle p) : p.placed = [] := by
  cases h <;> rfl

/-- The placed commands are those that are reached. -/
theorem map_placed (p : Part) : p.placed.map Placed.command = p.reached := by
  induction p using Part.induction with
  | @leaf around c h =>
    show (c.placed around).map Placed.command = c.reached
    rw [placed_leaf h, reached_leaf h]
    rfl
  | @conditional around status bs cs id inner =>
    show ((Command.conditional status bs cs id).placed around).map Placed.command = _
    cases bs with
    | nil => rfl
    | cons b rest =>
      rw [placed_conditional (List.cons_ne_nil b rest), List.map_cons]
      exact (congrArg _ inner).trans (reached_conditional (List.cons_ne_nil b rest) ..).symm
  | condition id index span e => rfl
  | idle h => rw [h.placed_eq, h.reached_eq]; rfl
  | splits h first last => rw [h.placed_eq, h.reached_eq, List.map_append, first, last]

end Part

theorem Command.map_placed (around : Option (Int × Int)) (c : Command) :
    (c.placed around).map Placed.command = c.reached := Part.map_placed (.command around c)

namespace Command

/-- The number of an assignment. -/
def assignmentId? : Command → Option Int
  | action _ (.assign _ _ id) => some id
  | _ => none

end Command

namespace Placed

/-- The watcher that a valid assignment to a variable is, if it stands in a conditional. -/
def watcher? (p : Placed) : Option Watcher :=
  match p.command, p.around with
  | .action status (.assign (.named _ name) _ id), some (conditional, branch) =>
    if status.valid then some ⟨name, conditional, branch, id⟩ else none
  | _, _ => none

/-- The number of a valid assignment, with the watcher that it is. -/
def stored? (p : Placed) : Option (Int × Option Watcher) :=
  match p.command with
  | .action status (.assign _ _ id) => if status.valid then some (id, p.watcher?) else none
  | _ => none

theorem watcher?_eq (p : Placed) : p.watcher? = p.stored?.bind Prod.snd := by
  obtain ⟨command, around⟩ := p
  cases command with
  | action status a =>
    cases a with
    | assign lhs rhs id =>
      unfold stored?
      dsimp only
      split
      · rfl
      · rename_i hvalid
        unfold watcher?
        split
        · rename_i heq haround
          cases heq
          rw [if_neg hvalid]
          rfl
        · rfl
    | _ => rfl
  | _ => rfl

end Placed

/-! ## The record of an assignment -/

/-- The watcher that the record of an assignment describes. -/
theorem Watcher.ofRecord?_assignment (id : Int) (lhsText rhsText lhsType rhsType : String)
    (lhs : Expr) (around : Option (Int × Int)) {branch : Check.Options}
    (h : Check.branchEntries (around.map Prod.fst, around.map Prod.snd) = .ok branch)
    (rhs : Expr) (status : Status) (hv : status.valid = true) :
    Watcher.ofRecord? id (Value.mapOf
      ([("assign_id", .integer id), ("lhs_text", .string lhsText), ("rhs_text", .string rhsText),
        ("lhs_type", .string lhsType), ("rhs_type", .string rhsType)] ++ Check.targetEntry lhs ++
        branch)) = (Placed.mk (.action status (.assign lhs rhs id)) around).watcher? := by
  cases around with
  | none =>
    cases h
    cases lhs <;> rfl
  | some place =>
    cases h
    cases lhs with
    | named span name => exact (if_pos hv).symm
    | _ => rfl

/-! ## What a run leaves -/

/-- Whether a command has been run without a write: an action that failed, a loop, or a conditional
without a branch. -/
def Command.isIdle : Command → Bool
  | action status _ => !status.valid
  | conditional _ branches _ _ => branches.isEmpty
  | forLoop .. | whileLoop .. => true

/-- What a run that no stop has ended leaves, command after command. An action that passes leaves
what its check writes, and a conditional its record, after what was run in it. -/
inductive Leaves (setting : Setting) : SymbolTable → List Placed → SymbolTable → Prop where
  | nil (t : SymbolTable) : Leaves setting t [] t
  | append {t u v : SymbolTable} {ps qs : List Placed} (first : Leaves setting t ps u)
      (last : Leaves setting u qs v) : Leaves setting t (ps ++ qs) v
  | idle {c : Command} (hc : c.isIdle = true) (around : Option (Int × Int)) (t : SymbolTable) :
      Leaves setting t [⟨c, around⟩] t
  | action {status : Status} {a : Action} {kind : CommandKind} {around : Option (Int × Int)}
      {t u : SymbolTable} (hv : status.valid = true) (hk : a.kind? = some kind)
      (h : Check.Passes (Check.action a) ⟨kind, setting.host⟩
        (.bare t (around.map Prod.fst) (around.map Prod.snd)) () u) :
      Leaves setting t [⟨.action status a, around⟩] u
  | conditional {status : Status} {branches : List Branch} {otherwise : List Command} {id : Int}
      {around : Option (Int × Int)} {t u : SymbolTable} {ps : List Placed} {record : Value}
      (hb : branches ≠ []) (hr : conditionalRecord id branches otherwise = .ok record)
      (h : Leaves setting t ps u) :
      Leaves setting t (⟨.conditional status branches otherwise id, around⟩ :: ps)
        (u.setRecord .conditionals id record)

variable {setting : Setting} {s : Session}

theorem leaves_alone {c : Command} {around : Option (Int × Int)} {passed : Bool}
    (h : c.RunsAlone setting) (hc : c.valid = true) (hs : s.table.Reachable)
    (hp : (Part.command around c).Stands s) (he : (runCommand setting c s).ending = .ok passed) :
    Leaves setting s.table.contents ((runCommand setting c s).tree.placed around)
      (runCommand setting c s).session.table.contents := by
  have htree := tree_passed h hc he
  have hsame := table_alone h hs
  cases c with
  | action status a =>
    rw [htree]
    cases passed with
    | true =>
      rw [runCommand] at he
      obtain ⟨kind, ws, hk, hpasses, hcontents⟩ := runAction_writes he
      have halike : Session.Alike s
          (.bare s.table.contents (around.map Prod.fst) (around.map Prod.snd)) :=
        ⟨rfl, hp.1.symm, hp.2.symm⟩
      rw [if_pos rfl, Command.placed, runCommand, hcontents]
      exact .action hc hk (hpasses _ halike)
    | false =>
      -- The command is marked and nothing of it is kept.
      obtain ⟨htable, -⟩ := (runCommand_alone h s).atomic hs (by simp [he])
      rw [htable, if_neg Bool.false_ne_true, Command.markInvalid, Command.placed]
      exact .idle rfl around _
  | forLoop status v option args body =>
    obtain hsame | ⟨_, _, ⟨⟩, _⟩ := hsame
    rw [htree, hsame]
    cases passed <;> exact .idle rfl around _
  | whileLoop status condition body =>
    obtain hsame | ⟨_, _, ⟨⟩, _⟩ := hsame
    rw [htree, hsame]
    cases passed <;> exact .idle rfl around _
  | conditional status branches otherwise id =>
    obtain hsame | ⟨_, _, ⟨⟩, _⟩ := hsame
    cases branches with
    | nil =>
      rw [(runCommand_noBranch he).2, hsame]
      exact .idle rfl around _
    | cons b rest => exact absurd h (runsAlone_of_branch he)

/-- A part of a tree that is run to its end leaves what its commands leave one by one. -/
theorem Part.leaves_run (setting : Setting) (p : Part) (s : Session) {n : Nat} (hc : p.faults = 0)
    (hs : s.table.Reachable) (hp : p.Stands s) (h : (p.run setting s).ending = .ok n) :
    Leaves setting s.table.contents (p.run setting s).tree.placed
      (p.run setting s).session.table.contents := by
  induction p, s using run_induction setting generalizing n with
  | alone around s halone =>
    obtain ⟨passed, he, -⟩ := ok_of_map h
    exact leaves_alone halone (Command.valid_of_faults hc) hs hp he
  | @conditional around status branches otherwise id s bs cs v r hconducted inner =>
    obtain ⟨passed, he, -⟩ := ok_of_map h
    -- It was run to its end, so its record has been stored after what its commands left.
    obtain ⟨m, record, hm, -, hrecord, rfl, htree⟩ := hconducted.ok he
    replace inner := inner (faults_inside hc) hs.openJournal rfl hm
    rw [hconducted.tree] at inner
    show Leaves setting s.table.contents ((runCommand setting _ s).tree.placed around)
      (runCommand setting _ s).session.table.contents
    have hleft := (contents_conducted hconducted hs).trans (contents_recordConditional id record _)
    rw [htree, placed_conditional hconducted.hasBranch', hleft]
    exact .conditional hconducted.hasBranch' hrecord inner
  | condition id index span e s =>
    rw [tree_condition, contents_condition]
    exact .nil _
  | @idle p s hidle =>
    rw [(hidle.kept setting s).1, (hidle.kept setting s).2, hidle.placed_eq]
    exact .nil _
  | halted hhalted first =>
    rw [hhalted.ending] at h
    cases h
  | @continued p q r s n hcontinued first last =>
    have hparts := hcontinued.splits.faults_eq
    rw [hcontinued.ending] at h
    obtain ⟨more, hmore, -⟩ := ok_of_map h
    rw [hcontinued.tree.placed_eq, hcontinued.session]
    exact (first (by omega) hs (hcontinued.splits.stands hp) hcontinued.first).append
      (last (by omega) (q.reachable_run setting hs) (hcontinued.stands hp) hmore)

/-- A command that is run to its end leaves what its commands leave one by one. -/
theorem leaves_run {c : Command} {around : Option (Int × Int)} {passed : Bool}
    (hc : c.faults = 0) (hs : s.table.Reachable)
    (hb : s.around.conditional = around.map Prod.fst ∧ s.around.branch = around.map Prod.snd)
    (h : (runCommand setting c s).ending = .ok passed) :
    Leaves setting s.table.contents ((runCommand setting c s).tree.placed around)
      (runCommand setting c s).session.table.contents :=
  Part.leaves_run setting (.command around c) s hc hs hb (congrArg (failureCount <$> ·) h)

/-! ## The records of assignments -/

/-- The assignments that have a record, with the watchers that their records describe. -/
def SymbolTable.assigned (t : SymbolTable) : List (Int × Option Watcher) :=
  t.assignments.map fun r => (r.1, Watcher.ofRecord? r.1 r.2.value)

/-- The second table has the records of some placed commands on top of those of the first. -/
def Stored (t u : SymbolTable) (ps : List Placed) : Prop :=
  u.assigned = (ps.filterMap Placed.stored?).foldl (fun l e => Keyed.put e.1 e.2 l) t.assigned

namespace Stored

variable {t u v : SymbolTable} {ps qs : List Placed}

/-- The same records, and commands that leave none. -/
theorem same (h : u.assignments = t.assignments) (hp : ps.filterMap Placed.stored? = []) :
    Stored t u ps := by
  unfold Stored SymbolTable.assigned
  rw [h, hp]
  rfl

theorem append (h : Stored t u ps) (h' : Stored u v qs) : Stored t v (ps ++ qs) := by
  unfold Stored at h h' ⊢
  rw [h', h, List.filterMap_append, List.foldl_append]

theorem cons {p : Placed} (h : Stored t u ps) (hp : p.stored? = none) : Stored t u (p :: ps) := by
  unfold Stored at h ⊢
  rw [h, List.filterMap_cons, hp]

/-- The record of a conditional is apart from those of assignments. -/
theorem recorded (h : Stored t u ps) (id : Int) (value : Value) :
    Stored t (u.setRecord .conditionals id value) ps := by
  have hsame : (u.setRecord .conditionals id value).assignments = u.assignments :=
    SymbolTable.records_setRecord_of_ne u
      (by decide : RecordKind.conditionals ≠ .assignments) id value
  unfold Stored SymbolTable.assigned at h ⊢
  rw [hsame, h]

end Stored

theorem assigned_setRecord (t : SymbolTable) (id : Int) (value : Value) :
    (t.setRecord .assignments id value).assigned =
      Keyed.put id (Watcher.ofRecord? id value) t.assigned := by
  obtain ⟨generation, hput⟩ : ∃ generation, (t.setRecord .assignments id value).assignments =
      Keyed.put id ⟨value, generation⟩ t.assignments := by
    show ∃ generation, (t.setRecord .assignments id value).records .assignments = _
    unfold SymbolTable.setRecord
    rw [SymbolTable.records_log]
    cases h : (t.records .assignments).lookup id with
    | none => exact ⟨0, rfl⟩
    | some r => exact ⟨r.generation + 1, rfl⟩
  unfold SymbolTable.assigned
  rw [hput]
  exact Keyed.map_put (fun n (r : Record) => Watcher.ofRecord? n r.value) id _ _

theorem records_applyAll {ws : List SymbolTable.Write} (h : ∀ w ∈ ws, Check.noRecord w)
    (t : SymbolTable) (kind : RecordKind) : (t.applyAll ws).records kind = t.records kind := by
  induction ws generalizing t with
  | nil => rfl
  | cons w rest ih =>
    obtain ⟨hfirst, hrest⟩ := List.forall_mem_cons.1 h
    exact (ih hrest (t.apply w)).trans (SymbolTable.records_apply t hfirst kind)

theorem records_check {a : Action} (h : Check.setsRecord a = false) {p : Place} {s : Session}
    {u : SymbolTable} (hr : Check.Passes (Check.action a) p s () u) (kind : RecordKind) :
    u.records kind = s.table.records kind := by
  obtain ⟨ds, v, hv, rfl⟩ := hr
  obtain ⟨ws, hnone, hws⟩ := Check.action_noRecord h p { s with diagnostics := ds }
  obtain ⟨-, es, hs, -⟩ := hws _ (.refl _)
  rw [hv] at hs
  rw [show v = _ from hs]
  exact records_applyAll hnone s.table kind

theorem stored_assignment {status : Status} {lhs rhs : Expr} {id : Int} {p : Place}
    {around : Option (Int × Int)} {t u : SymbolTable} (hv : status.valid = true)
    (h : Check.Passes (Check.assignment lhs rhs id) p
      (.bare t (around.map Prod.fst) (around.map Prod.snd)) () u) :
    Stored t u [⟨.action status (.assign lhs rhs id), around⟩] := by
  obtain ⟨-, lhsText, rhsText, lhsType, rhsType, branch, -, -, -, -, -, hbranch, htable⟩ :=
    Check.assignment_passes h
  have hwatcher := Watcher.ofRecord?_assignment id lhsText rhsText lhsType.name rhsType.name lhs
    around hbranch rhs status hv
  unfold Stored
  rw [htable, SymbolTable.apply, assigned_setRecord, hwatcher]
  simp [Placed.stored?, hv, Session.bare]

theorem Leaves.stored {t u : SymbolTable} {ps : List Placed} (h : Leaves setting t ps u) :
    Stored t u ps := by
  induction h with
  | nil t => exact .same rfl rfl
  | append _ _ first last => exact first.append last
  | @idle c hc around t =>
    refine .same rfl ?_
    cases c with
    | action status a =>
      have hv : status.valid = false := by simpa [Command.isIdle] using hc
      cases a <;> simp [Placed.stored?, hv]
    | _ => rfl
  | @action status a kind around t u hv hk hr =>
    cases a with
    | assign lhs rhs id => exact stored_assignment hv hr
    | _ => exact .same (records_check rfl hr .assignments) rfl
  | conditional _ _ _ ih => exact (Stored.cons ih rfl).recorded _ _

end DialogScript
