import DialogScript.Proofs.Running.Placed
import DialogScript.Proofs.Table.Transaction

/-!
The records of a run and the commands that they are records of. A conditional with a branch and an
assignment that passes leave a record each, under their numbers; a run makes no other record and
removes none. Where the commands stand is told twice: by the records of the assignments, and by the
conditionals that hold them.
-/

namespace DialogScript

/-! ## Commands in conditionals -/

namespace Placed

/-- One placed command stands in another directly, a conditional with a branch. -/
def Within (p q : Placed) : Prop :=
  ∃ status branches otherwise id branch,
    q.command = .conditional status branches otherwise id ∧ branches ≠ [] ∧
    p.around = some (id, branch) ∧ (branch, p.command) ∈ nested branches otherwise

end Placed

theorem mem_nestedFrom {index : Nat} {branches : List Branch} {entry : Int × Command} :
    entry ∈ nestedFrom index branches ↔
      ∃ k b, branches[k]? = some b ∧ entry.1 = ((index + k : Nat) : Int) ∧
        entry.2 ∈ b.commands := by
  induction branches generalizing index with
  | nil => simp [nestedFrom]
  | cons b rest ih =>
    rw [nestedFrom, List.mem_append, ih]
    constructor
    · rintro (h | ⟨k, b', hk, hindex, hmem⟩)
      · obtain ⟨c, hc, rfl⟩ := List.mem_map.1 h
        exact ⟨0, b, rfl, rfl, hc⟩
      · exact ⟨k + 1, b', hk, by rw [hindex]; congr 1; omega, hmem⟩
    · rintro ⟨_ | k, b', hk, hindex, hmem⟩
      · cases hk
        exact .inl (List.mem_map.2 ⟨entry.2, hmem, Prod.ext hindex.symm rfl⟩)
      · exact .inr ⟨k, b', hk, by rw [hindex]; congr 1; omega, hmem⟩

theorem Command.placed_self (around : Option (Int × Int)) (c : Command) :
    ⟨c, around⟩ ∈ placed around c := by
  cases c <;> rw [placed] <;> exact List.mem_cons_self

namespace Part

theorem placed_of_direct (p : Part) {x : Placed} (h : x ∈ p.direct) : x ∈ p.placed := by
  induction p using Part.induction with
  | leaf around _ | conditional around =>
    rw [List.mem_singleton.1 h]
    exact Command.placed_self around _
  | condition id index span e => cases h
  | idle hidle =>
    rw [hidle.direct_eq] at h
    cases h
  | splits hsplits first last =>
    rw [hsplits.direct_eq] at h
    rw [hsplits.placed_eq]
    exact List.mem_append.2 ((List.mem_append.1 h).imp first last)

/-- A placed command stands in the part directly, or it stands in another. -/
theorem mem_placed (p : Part) {x : Placed} (h : x ∈ p.placed) :
    x ∈ p.direct ∨ ∃ q ∈ p.placed, x.Within q := by
  induction p using Part.induction with
  | @leaf around c hc =>
    rw [placed, placed_leaf hc] at h
    exact .inl h
  | @conditional around status branches otherwise id inner =>
    rw [placed] at h ⊢
    cases branches with
    | nil => exact .inl h
    | cons b rest =>
      have hb : b :: rest ≠ [] := List.cons_ne_nil b rest
      rw [placed_conditional hb] at h ⊢
      refine (List.mem_cons.1 h).imp List.mem_singleton.2 fun h => ?_
      rcases inner h with hdirect | ⟨q, hq, hw⟩
      · rw [direct_inside] at hdirect
        obtain ⟨⟨branch, c⟩, hmem, rfl⟩ := List.mem_map.1 hdirect
        exact ⟨_, List.mem_cons_self, status, b :: rest, otherwise, id, branch, rfl, hb, rfl, hmem⟩
      · exact ⟨q, List.mem_cons_of_mem _ hq, hw⟩
  | condition id index span e => cases h
  | idle hidle =>
    rw [hidle.placed_eq] at h
    cases h
  | splits hsplits first last =>
    rw [hsplits.placed_eq] at h ⊢
    rw [hsplits.direct_eq]
    rcases List.mem_append.1 h with h | h
    · exact (first h).imp (List.mem_append_left _) fun ⟨q, hq, hw⟩ =>
        ⟨q, List.mem_append_left _ hq, hw⟩
    · exact (last h).imp (List.mem_append_right _) fun ⟨q, hq, hw⟩ =>
        ⟨q, List.mem_append_right _ hq, hw⟩

/-- What stands in a placed command is placed. -/
theorem placed_within (p : Part) {x q : Placed} (hx : x.Within q) (h : q ∈ p.placed) :
    x ∈ p.placed := by
  induction p using Part.induction with
  | @leaf around c hc =>
    rw [placed, placed_leaf hc, List.mem_singleton] at h
    obtain ⟨status, branches, otherwise, id, branch, hq, -⟩ := hx
    rw [h] at hq
    exact absurd (congrArg Command.kind? hq) hc
  | @conditional around status branches otherwise id inner =>
    rw [placed] at h ⊢
    cases branches with
    | nil =>
      rw [placed_noBranch, List.mem_singleton] at h
      obtain ⟨_, _, _, _, _, hq, hb, -⟩ := hx
      rw [h] at hq
      cases hq
      exact absurd rfl hb
    | cons b rest =>
      rw [placed_conditional (List.cons_ne_nil b rest)] at h ⊢
      refine List.mem_cons_of_mem _ ?_
      rcases List.mem_cons.1 h with rfl | h
      · -- It stands in the conditional itself.
        obtain ⟨_, _, _, _, branch, hq, -, haround, hmem⟩ := hx
        cases hq
        refine placed_of_direct (.inside id (b :: rest) otherwise) ?_
        rw [direct_inside]
        obtain ⟨c, around⟩ := x
        obtain rfl : around = some (id, branch) := haround
        exact List.mem_map.2 ⟨(branch, c), hmem, rfl⟩
      · exact inner h
  | condition id index span e => cases h
  | idle hidle =>
    rw [hidle.placed_eq] at h
    cases h
  | splits hsplits first last =>
    rw [hsplits.placed_eq] at h ⊢
    exact List.mem_append.2 ((List.mem_append.1 h).imp first last)

end Part

namespace Command

theorem mem_placed {p : Placed} (around : Option (Int × Int)) (c : Command)
    (h : p ∈ placed around c) : p = ⟨c, around⟩ ∨ ∃ q ∈ placed around c, p.Within q :=
  (Part.mem_placed (.command around c) h).imp_left List.mem_singleton.1

theorem placed_within {p q : Placed} (around : Option (Int × Int)) (hp : p.Within q) (c : Command)
    (h : q ∈ placed around c) : p ∈ placed around c := Part.placed_within (.command around c) hp h

end Command

/-! ## The commands that leave records -/

namespace Command

/-- The number of a valid assignment. -/
def assignedId? : Command → Option Int
  | action status (.assign _ _ id) => if status.valid then some id else none
  | _ => none

/-- The number of a conditional with a branch. -/
def branchedId? : Command → Option Int
  | conditional _ branches _ id => if branches.isEmpty then none else some id
  | _ => none

end Command

theorem SymbolTable.record_setRecord (t : SymbolTable) (kind : RecordKind) (id : Int)
    (value : Value) (other : RecordKind) (n : Int) :
    (t.setRecord kind id value).record other n =
      if other = kind ∧ n = id then some value else t.record other n := by
  unfold SymbolTable.setRecord SymbolTable.record
  dsimp only
  rw [SymbolTable.records_log, SymbolTable.lookup_putRecord]
  split
  · cases (t.records kind).lookup id <;> rfl
  · rfl

namespace Placed

/-- The number under which a command leaves a record of a kind. -/
def recordId? (kind : RecordKind) (p : Placed) : Option Int :=
  match kind with
  | .conditionals => p.command.branchedId?
  | .assignments => p.command.assignedId?

/-- A value is the record that a command leaves: that of a conditional lists what stands in it, and
that of an assignment tells where it stands. -/
def HasRecord (kind : RecordKind) (p : Placed) (v : Value) : Prop :=
  match kind with
  | .conditionals => ∃ status branches otherwise id,
      p.command = .conditional status branches otherwise id ∧
        conditionalRecord id branches otherwise = .ok v
  | .assignments =>
    v.field? "if_id" = p.around.map (fun place => .integer place.1) ∧
      v.field? "branch_index" = p.around.map fun place => .integer place.2

end Placed

/-- The records of the second table are those of the first and of some placed commands. No record
goes, each of the commands has one, and each new one is that of a command. -/
structure Sourced (kind : RecordKind) (t u : SymbolTable) (ps : List Placed) : Prop where
  keeps : ∀ id, t.record kind id ≠ none → u.record kind id ≠ none
  made : ∀ p ∈ ps, ∀ id, p.recordId? kind = some id → u.record kind id ≠ none
  source : ∀ id v, u.record kind id = some v →
    t.record kind id = some v ∨ ∃ p ∈ ps, p.recordId? kind = some id ∧ p.HasRecord kind v

namespace Sourced

variable {kind : RecordKind} {t u v : SymbolTable} {ps qs : List Placed}

/-- The same records, and commands that leave none. -/
theorem same (h : u.records kind = t.records kind) (hp : ∀ p ∈ ps, p.recordId? kind = none) :
    Sourced kind t u ps := by
  have hr (id : Int) : u.record kind id = t.record kind id := by
    unfold SymbolTable.record
    rw [h]
  refine ⟨fun id hid => (hr id).symm ▸ hid, fun p hmem id hid => ?_, fun id v hv => ?_⟩
  · rw [hp p hmem] at hid
    cases hid
  · exact .inl ((hr id).symm.trans hv)

theorem append (h : Sourced kind t u ps) (h' : Sourced kind u v qs) :
    Sourced kind t v (ps ++ qs) := by
  refine ⟨fun id hid => h'.keeps id (h.keeps id hid), fun p hp id hid => ?_, fun id w hw => ?_⟩
  · rcases List.mem_append.1 hp with hp | hp
    · exact h'.keeps id (h.made p hp id hid)
    · exact h'.made p hp id hid
  · rcases h'.source id w hw with hu | ⟨p, hp, hid⟩
    · rcases h.source id w hu with ht | ⟨p, hp, hid⟩
      · exact .inl ht
      · exact .inr ⟨p, List.mem_append_left _ hp, hid⟩
    · exact .inr ⟨p, List.mem_append_right _ hp, hid⟩

/-- A command that leaves its record. -/
theorem one {p : Placed} {id : Int} {value : Value} (hid : p.recordId? kind = some id)
    (hr : p.HasRecord kind value) : Sourced kind t (t.setRecord kind id value) [p] := by
  refine ⟨fun other ho => ?_, fun q hq other ho => ?_, fun other w hw => ?_⟩
  · rw [SymbolTable.record_setRecord]
    split
    · exact nofun
    · exact ho
  · obtain rfl := List.mem_singleton.1 hq
    rw [hid] at ho
    cases ho
    rw [SymbolTable.record_setRecord, if_pos ⟨rfl, rfl⟩]
    exact nofun
  · rw [SymbolTable.record_setRecord] at hw
    split at hw
    · rename_i heq
      cases hw
      exact .inr ⟨p, List.mem_singleton_self p, heq.2 ▸ hid, hr⟩
    · exact .inl hw

/-- A record that none of the commands leaves is as it was. -/
theorem unchanged (h : Sourced kind t u ps) {id : Int}
    (hid : ∀ p ∈ ps, p.recordId? kind ≠ some id) : u.record kind id = t.record kind id := by
  cases hu : u.record kind id with
  | none =>
    cases ht : t.record kind id with
    | none => rfl
    | some v => exact absurd hu (h.keeps id (by rw [ht]; exact nofun))
  | some v =>
    rcases h.source id v hu with ht | ⟨p, hp, hsome, -⟩
    · exact ht.symm
    · exact absurd hsome (hid p hp)

/-- The order of the commands does not matter. -/
theorem of_perm (h : Sourced kind t u ps) (hp : ps.Perm qs) : Sourced kind t u qs where
  keeps := h.keeps
  made p hmem := h.made p (hp.mem_iff.2 hmem)
  source id w hw := (h.source id w hw).imp_right fun ⟨p, hmem, hr⟩ => ⟨p, hp.mem_iff.1 hmem, hr⟩

end Sourced

/-- An assignment that passes leaves the record that tells where it stands. -/
theorem hasRecord_assignment {status : Status} {lhs rhs : Expr} {id : Int}
    (lhsText rhsText lhsType rhsType : String) {around : Option (Int × Int)}
    {branch : Check.Options}
    (h : Check.branchEntries (around.map Prod.fst, around.map Prod.snd) = .ok branch) :
    (Placed.mk (.action status (.assign lhs rhs id)) around).HasRecord .assignments (Value.mapOf
      ([("assign_id", .integer id), ("lhs_text", .string lhsText), ("rhs_text", .string rhsText),
        ("lhs_type", .string lhsType), ("rhs_type", .string rhsType)] ++ Check.targetEntry lhs ++
        branch)) := by
  cases around with
  | none =>
    cases h
    cases lhs <;> exact ⟨rfl, rfl⟩
  | some place =>
    cases h
    cases lhs <;> exact ⟨rfl, rfl⟩

theorem Placed.recordId?_of_isIdle {c : Command} (hc : c.isIdle = true) (kind : RecordKind)
    (around : Option (Int × Int)) : Placed.recordId? kind ⟨c, around⟩ = none := by
  cases c with
  | action status a =>
    have hv : status.valid = false := by simpa [Command.isIdle] using hc
    cases kind <;> cases a <;> simp [Placed.recordId?, Command.branchedId?, Command.assignedId?, hv]
  | conditional status branches otherwise id =>
    cases kind
    · exact if_pos hc
    · rfl
  | forLoop status v option args body => cases kind <;> rfl
  | whileLoop status condition body => cases kind <;> rfl

/-- A run that no stop has ended makes the records of its commands. -/
theorem Leaves.sourced {setting : Setting} {t u : SymbolTable} {ps : List Placed}
    (h : Leaves setting t ps u) (kind : RecordKind) : Sourced kind t u ps := by
  induction h with
  | nil t => exact .same rfl fun _ hp => absurd hp List.not_mem_nil
  | append _ _ first last => exact first.append last
  | idle hc around t =>
    refine .same rfl fun p hp => ?_
    rw [List.mem_singleton.1 hp]
    exact Placed.recordId?_of_isIdle hc kind around
  | @action status a _ around t u hv hk hr =>
    cases a with
    | assign lhs rhs id =>
      obtain ⟨-, _, _, _, _, _, -, -, -, -, -, hbranch, htable⟩ := Check.assignment_passes hr
      rw [htable]
      cases kind with
      | assignments => exact .one (if_pos hv) (hasRecord_assignment _ _ _ _ hbranch)
      | conditionals =>
        refine .same (SymbolTable.records_setRecord_of_ne t (by decide) id _) fun p hp => ?_
        rw [List.mem_singleton.1 hp]
        rfl
    | _ =>
      refine .same (records_check rfl hr kind) fun p hp => ?_
      rw [List.mem_singleton.1 hp]
      cases kind <;> rfl
  | @conditional status branches otherwise id around t u ps record hb hr _ ih =>
    -- The record is set after those of the commands inside, which come later in the list.
    cases kind with
    | conditionals =>
      have hone : Sourced .conditionals u _ [⟨.conditional status branches otherwise id, around⟩] :=
        .one (if_neg (by simpa using hb)) ⟨status, branches, otherwise, id, rfl, hr⟩
      exact (ih.append hone).of_perm List.perm_append_comm
    | assignments =>
      have hnone (p) (hp : p ∈ [Placed.mk (.conditional status branches otherwise id) around]) :
          p.recordId? .assignments = none := by
        rw [List.mem_singleton.1 hp]
        rfl
      have hone := Sourced.same (SymbolTable.records_setRecord_of_ne u
        (by decide : RecordKind.conditionals ≠ .assignments) id record) hnone
      exact (ih.append hone).of_perm List.perm_append_comm

end DialogScript
