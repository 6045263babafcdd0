import DialogScript.Proofs.Running.Count

/-!
Runs that no stop has ended. Then every command that the run visits has been run to its end and
shows it by its flag, and a conditional is marked exactly if it has no branch, a condition of it
failed, or a command that stands in it directly is marked.
-/

namespace DialogScript

variable {setting : Setting} {s u : Session}

/-! ## The flag of a command -/

/-- The flag of a command tells whether it passed, unless its run broke down. -/
structure Marked (ran : Ran Command Bool) : Prop where
  ok : ∀ passed, ran.ending = .ok passed → ran.tree.valid = passed
  outOfMemory : ∀ m, ran.ending = .error (.outOfMemory m) → ran.tree.valid = false

theorem marked_of_ok {ran : Ran Command Bool} {passed : Bool} (h : ran.ending = .ok passed)
    (hv : ran.tree.valid = passed) : Marked ran := by
  constructor
  · intro other hother
    rw [h] at hother
    cases hother
    exact hv
  · intro m hm
    rw [h] at hm
    cases hm

theorem marked_of_stop {ran : Ran Command Bool} {stop : Stop} (h : ran.ending = .error stop)
    (hv : (∃ b, stop = .broken b) ∨ ran.tree.valid = false) : Marked ran := by
  constructor
  · intro passed hp
    rw [h] at hp
    cases hp
  · intro m hm
    rw [h] at hm
    cases hm
    exact hv.resolve_left fun ⟨b, hb⟩ => by cases hb

theorem marked_finish {kind : CommandKind} {c : Command} (hc : c.valid = true)
    (r : Except Setback Unit) : Marked (u.finish kind c r) := by
  rcases r with (e | ⟨m | b⟩) | ok
  · exact marked_of_ok rfl (Command.valid_markInvalid c)
  · exact marked_of_stop rfl (.inr (Command.valid_markInvalid c))
  · exact marked_of_stop rfl (.inl ⟨b, rfl⟩)
  · exact marked_of_ok rfl hc

theorem marked_command {c : Command} (hc : c.valid = true) : Marked (runCommand setting c s) := by
  by_cases halone : c.RunsAlone setting
  · have hran := runCommand_alone halone s
    generalize runCommand setting c s = ran at hran ⊢
    cases hran with
    | kindless hk => exact marked_of_stop rfl (.inl ⟨_, rfl⟩)
    | concluded ws hk hds hr => exact marked_finish hc _
  · cases c with
    | conditional status branches otherwise id =>
      obtain ⟨bs, cs, v, r, h⟩ := conducted halone s
      rw [h.run]
      exact marked_finish (c := .conditional status bs cs id) hc r
    | _ => exact absurd trivial halone

/-! ## Counting direct failures -/

/-- The number of marked commands among some. -/
def markedCount (cs : List Command) : Nat := cs.countP fun c => !c.valid

theorem markedCount_eq_zero {cs : List Command} :
    markedCount cs = 0 ↔ ¬∃ c ∈ cs, c.valid = false := by
  simp [markedCount, List.countP_eq_zero]

theorem markedCount_append (cs ds : List Command) :
    markedCount (cs ++ ds) = markedCount cs + markedCount ds := List.countP_append

theorem markedCount_singleton {c : Command} {passed : Bool} (h : c.valid = passed) :
    markedCount [c] = failureCount passed := by
  subst h
  cases hv : c.valid <;> simp [markedCount, failureCount, hv]

namespace Part

/-- The commands that stand in a part directly, without their places. -/
def children (p : Part) : List Command := p.direct.map Placed.command

theorem Splits.children_eq {p q r : Part} (h : Splits p q r) :
    p.children = q.children ++ r.children := by
  rw [children, h.direct_eq, List.map_append]
  rfl

theorem Idle.children_eq {p : Part} (h : Idle p) : p.children = [] := by
  rw [children, h.direct_eq]
  rfl

theorem children_branches (id : Int) (index : Nat) (bs : List Branch) :
    (branches id index bs).children = bs.flatMap Branch.commands := by
  induction bs generalizing index with
  | nil => rfl
  | cons b rest ih =>
    rw [(Splits.branches id index b rest).children_eq, ih]
    simp [children, direct, Function.comp_def]

theorem children_inside (status : Status) (id : Int) (bs : List Branch) (cs : List Command) :
    (inside id bs cs).children = (Command.conditional status bs cs id).children := by
  rw [(Splits.inside id bs cs).children_eq, children_branches]
  simp [children, direct, Function.comp_def, Command.children]

/-- The failures that are counted in a part are the conditions that failed and the commands that
stand in it and are marked. -/
theorem count_run (setting : Setting) (p : Part) (s : Session) (hp : p.faults = 0) {n : Nat}
    (h : (p.run setting s).ending = .ok n) :
    (p.held setting s).count false + markedCount (p.run setting s).tree.children = n := by
  -- A command counts as one failure or none, whatever has been counted in it.
  have counted (around : Option (Int × Int)) (c : Command) (s : Session) (hc : c.faults = 0)
      (n : Nat) (h : failureCount <$> (runCommand setting c s).ending = .ok n) :
      0 + markedCount [(runCommand setting c s).tree] = n := by
    obtain ⟨passed, hpassed, hn⟩ := ok_of_map h
    have hflag := (marked_command (Command.valid_of_faults hc)).ok passed hpassed
    rw [markedCount_singleton hflag, hn, Nat.zero_add]
  induction p, s using run_induction setting generalizing n with
  | alone around s _ => exact counted around _ s hp n h
  | conditional around _ _ => exact counted around _ _ hp n h
  | condition id index span e s =>
    cases hc : runCondition setting index e s with
    | mk result u =>
    cases result with
    | error stop =>
      rw [run_condition_stop id span hc] at h
      cases h
    | ok held =>
      rw [run_condition_ok id span hc] at h ⊢
      cases h
      show (conditionHeld setting index e s).count false + 0 = _
      rw [conditionHeld, hc]
      cases held <;> rfl
  | idle s hidle =>
    obtain ⟨u, hr, -⟩ := hidle.run_eq setting s
    rw [hr] at h ⊢
    cases h
    rw [hidle.held_eq, hidle.children_eq]
    rfl
  | halted hhalted first =>
    rw [hhalted.ending] at h
    cases h
  | continued hcontinued first last =>
    have hparts := hcontinued.splits.faults_eq
    rw [hcontinued.ending] at h
    obtain ⟨more, hmore, rfl⟩ := ok_of_map h
    have hfirst := first (by omega) hcontinued.first
    have hlast := last (by omega) hmore
    rw [hcontinued.held, hcontinued.tree.children_eq, markedCount_append, List.count_append]
    omega

end Part

/-- A conditional that no stop has ended is marked exactly if it has no branch, a condition of it
failed, or a command that stands in it directly is marked. -/
theorem invalid_conditional_iff {status : Status} {branches : List Branch}
    {otherwise : List Command} {id : Int} {passed : Bool}
    (hc : (Command.conditional status branches otherwise id).faults = 0)
    (h : (runCommand setting (.conditional status branches otherwise id) s).ending = .ok passed) :
    (runCommand setting (.conditional status branches otherwise id) s).tree.valid = false ↔
      branches = [] ∨
      false ∈ Visit.held setting ⟨.conditional status branches otherwise id, s⟩ ∨
      ∃ c ∈ (runCommand setting (.conditional status branches otherwise id) s).tree.children,
        c.valid = false := by
  -- The flag says whether it passed, and it passes if nothing was counted.
  have hflag := (marked_command (Command.valid_of_faults hc)).ok passed h
  rw [hflag]
  cases branches with
  | nil => exact iff_of_true (runCommand_noBranch h).1 (.inl rfl)
  | cons b rest =>
    obtain ⟨bs, cs, v, r, hconducted⟩ := conducted (runsAlone_of_branch h) s
    obtain ⟨n, record, hn, hpassed, -, -, htree⟩ := hconducted.ok h
    have hcount := Part.count_run setting _ _ (Part.faults_inside hc) hn
    rw [hconducted.tree, Part.children_inside { status with valid := status.valid && passed },
      ← htree, ← hconducted.held] at hcount
    have hzero : n = 0 ↔
        false ∉ Visit.held setting ⟨.conditional status (b :: rest) otherwise id, s⟩ ∧
        ¬∃ c ∈ (runCommand setting (.conditional status (b :: rest) otherwise id) s).tree.children,
          c.valid = false := by
      rw [← List.count_eq_zero, ← markedCount_eq_zero]
      omega
    rw [← Bool.not_eq_true, hpassed, hzero, Classical.not_and_iff_not_or_not, Classical.not_not,
      Classical.not_not]
    simp only [List.cons_ne_nil, false_or]

/-! ## Passing without a fault -/

theorem tree_finish (u : Session) (kind : CommandKind) (c : Command) (r : Except Setback Unit) :
    (u.finish kind c r).tree = c ∨ (u.finish kind c r).tree = c.markInvalid := by
  rcases r with (e | ⟨m | b⟩) | ok
  · exact .inr rfl
  · exact .inr rfl
  · exact .inl rfl
  · exact .inl rfl

/-- A command in which no other is run keeps its form. -/
theorem tree_alone {c : Command} (h : c.RunsAlone setting) :
    (runCommand setting c s).tree = c ∨ (runCommand setting c s).tree = c.markInvalid := by
  have hran := runCommand_alone h s
  generalize runCommand setting c s = ran at hran ⊢
  cases hran with
  | kindless hk => exact .inl rfl
  | concluded ws hk hds hr => exact tree_finish _ _ _ _

/-- A command in which no other is run is marked unless it passes. -/
theorem tree_passed {c : Command} {passed : Bool} (h : c.RunsAlone setting) (hc : c.valid = true)
    (he : (runCommand setting c s).ending = .ok passed) :
    (runCommand setting c s).tree = if passed then c else c.markInvalid := by
  have hflag := (marked_command hc).ok passed he
  have htree : (runCommand setting c s).tree = c ∨ (runCommand setting c s).tree = c.markInvalid :=
    tree_alone h
  rcases htree with ht | ht
  · rw [ht, hc] at hflag
    rw [ht, ← hflag]
    rfl
  · rw [ht, Command.valid_markInvalid] at hflag
    rw [ht, ← hflag]
    rfl

theorem ok_of_failureCount {r : Except Stop Bool} (h : failureCount <$> r = .ok 0) :
    r = .ok true := by
  rcases r with stop | passed
  · cases h
  · cases passed <;> cases h
    rfl

/-- A part in which no failure is counted has no fault in it: no command in it is marked, and no
condition failed. -/
theorem Part.clean_run (setting : Setting) (p : Part) (s : Session) (hp : p.faults = 0)
    (h : (p.run setting s).ending = .ok 0) :
    (p.run setting s).tree.faults = 0 ∧ (p.held setting s).count false = 0 ∧
      failedConditions setting (p.visits setting s) = 0 := by
  induction p, s using run_induction setting with
  | @alone around c s halone =>
    have htree := tree_passed halone (Command.valid_of_faults hp) (ok_of_failureCount h)
    refine ⟨?_, rfl, ?_⟩
    · show (runCommand setting c s).tree.faults = 0
      rw [htree]
      exact hp
    · show failedConditions setting (DialogScript.visits setting c s) = 0
      rw [visits_alone halone, failedConditions_cons, held_alone halone]
      rfl
  | @conditional around status branches otherwise id s bs cs v r hconducted inner =>
    -- It passes, so nothing was counted inside.
    have he := ok_of_failureCount h
    obtain ⟨n, record, hn, hpassed, -, -, htree⟩ := hconducted.ok he
    obtain rfl : n = 0 := hpassed.1 rfl
    obtain ⟨hfaults, hheld, hfailed⟩ := inner (faults_inside hp) hn
    have hvalid := (marked_command (Command.valid_of_faults hp)).ok true he
    rw [hconducted.tree, faults] at hfaults
    refine ⟨?_, rfl, ?_⟩
    · show (runCommand setting _ s).tree.faults = 0
      rw [htree] at hvalid ⊢
      rw [Command.faults_conditional, show (status.valid && true) = true from hvalid]
      show 0 + _ + _ = 0
      omega
    · show failedConditions setting (DialogScript.visits setting _ s) = 0
      rw [hconducted.visits, failedConditions_cons, hconducted.held]
      omega
  | condition id index span e s =>
    have hcount := count_run setting _ s hp h
    refine ⟨?_, by omega, rfl⟩
    rw [tree_condition]
    rfl
  | idle s hidle =>
    obtain ⟨u, hr, -⟩ := hidle.run_eq setting s
    rw [hr, hidle.held_eq, hidle.visits_eq]
    exact ⟨hp, rfl, rfl⟩
  | halted hhalted first =>
    rw [hhalted.ending] at h
    cases h
  | continued hcontinued first last =>
    have hparts := hcontinued.splits.faults_eq
    rw [hcontinued.ending] at h
    obtain ⟨more, hmore, hsum⟩ := ok_of_map h
    obtain ⟨rfl, rfl⟩ := Nat.add_eq_zero_iff.1 hsum
    have hfirst := first (by omega) hcontinued.first
    have hlast := last (by omega) hmore
    rw [hcontinued.held, hcontinued.visits, hcontinued.tree.faults_eq, failedConditions_append,
      List.count_append]
    omega

/-- A command that passes has no fault in it: no command in it is marked, and no condition
failed. -/
theorem clean_command (setting : Setting) (c : Command) (s : Session) (hc : c.faults = 0)
    (h : (runCommand setting c s).ending = .ok true) :
    (runCommand setting c s).tree.faults = 0 ∧
      failedConditions setting (visits setting c s) = 0 := by
  have hending : ((Part.command none c).run setting s).ending = .ok 0 :=
    congrArg (failureCount <$> ·) h
  obtain ⟨htree, -, hvisits⟩ := Part.clean_run setting (.command none c) s hc hending
  exact ⟨htree, hvisits⟩

/-! ## Visited commands -/

/-- The tree that the run of a visited command leaves. -/
def Visit.tree (setting : Setting) (v : Visit) : Command := (v.ran setting).tree

/-- Visits of a run that no stop has ended: none of them was ended by a stop, and they are the
commands of a tree that a run reaches, in order, and leave those of another. -/
structure Ended (setting : Setting) (vs : List Visit) (before after : List Command) : Prop where
  ended : ∀ v ∈ vs, ∃ passed, (v.ran setting).ending = .ok passed
  commands : vs.map Visit.command = before
  trees : vs.map (Visit.tree setting) = after

namespace Ended

variable {vs ws : List Visit} {bs cs ds es : List Command}

theorem nil : Ended setting [] [] [] := ⟨fun _ h => absurd h List.not_mem_nil, rfl, rfl⟩

theorem append (h : Ended setting vs bs cs) (h' : Ended setting ws ds es) :
    Ended setting (vs ++ ws) (bs ++ ds) (cs ++ es) := by
  constructor
  · intro v hv
    exact (List.mem_append.1 hv).elim (h.ended v) (h'.ended v)
  · rw [List.map_append, h.commands, h'.commands]
  · rw [List.map_append, h.trees, h'.trees]

theorem cons {v : Visit} {passed : Bool} (he : (v.ran setting).ending = .ok passed)
    (h : Ended setting vs bs cs) :
    Ended setting (v :: vs) (v.command :: bs) (v.tree setting :: cs) := by
  constructor
  · intro w hw
    rcases List.mem_cons.1 hw with rfl | hw
    · exact ⟨passed, he⟩
    · exact h.ended w hw
  · rw [List.map_cons, h.commands]
  · rw [List.map_cons, h.trees]

end Ended

theorem reached_leaf {c : Command} (h : c.kind? ≠ some .conditional) : c.reached = [c] := by
  cases c with
  | conditional status branches otherwise id => exact absurd rfl h
  | action status a => rw [Command.reached]
  | forLoop status v option args body => rw [Command.reached]
  | whileLoop status condition body => rw [Command.reached]

namespace Part

/-- The commands of a part that a run to its end reaches. -/
def reached : Part → List Command
  | command _ c => c.reached
  | commands _ cs | otherwise _ cs => Command.allReached cs
  | branch _ _ b => Command.allReached b.commands
  | branches _ _ bs => Command.branchReached bs
  | inside _ bs cs => Command.branchReached bs ++ Command.allReached cs
  | condition .. | last _ => []

theorem Splits.reached_eq {p q r : Part} (h : Splits p q r) :
    p.reached = q.reached ++ r.reached := by
  cases h with
  | branches id index b rest => cases b with | mk span e cs => rfl
  | _ => rfl

theorem Idle.reached_eq {p : Part} (h : Idle p) : p.reached = [] := by
  cases h <;> rfl

theorem reached_conditional {bs : List Branch} (hbs : bs ≠ []) (status : Status)
    (cs : List Command) (id : Int) :
    (Command.conditional status bs cs id).reached =
      .conditional status bs cs id :: (inside id bs cs).reached := by
  rw [Command.reached, if_neg (fun he => hbs (List.isEmpty_iff.1 he))]
  rfl

theorem reached_tree {c : Command} {passed : Bool} (h : c.RunsAlone setting)
    (he : (runCommand setting c s).ending = .ok passed) :
    c.reached = [c] ∧ (runCommand setting c s).tree.reached = [(runCommand setting c s).tree] := by
  by_cases hk : c.kind? ≠ some .conditional
  · have hkind : (runCommand setting c s).tree.kind? = c.kind? := by
      have htree : (runCommand setting c s).tree = c ∨
          (runCommand setting c s).tree = c.markInvalid := tree_alone h
      rcases htree with ht | ht
      · rw [ht]
      · rw [ht, Command.kind?_markInvalid]
    exact ⟨reached_leaf hk, reached_leaf (hkind ▸ hk)⟩
  · cases c with
    | conditional status branches otherwise id =>
      cases branches with
      | nil =>
        rw [(runCommand_noBranch he).2]
        exact ⟨rfl, rfl⟩
      | cons b rest => exact absurd h (runsAlone_of_branch he)
    | action status a => exact absurd (kind?_ne_conditional a) hk
    | _ => exact absurd (by simp [Command.kind?]) hk

theorem ended_alone {c : Command} {passed : Bool} (h : c.RunsAlone setting)
    (he : (runCommand setting c s).ending = .ok passed) :
    Ended setting (DialogScript.visits setting c s) c.reached
      (runCommand setting c s).tree.reached := by
  obtain ⟨hc, ht⟩ := reached_tree h he
  rw [visits_alone h, hc, ht]
  exact .cons he .nil

theorem ended_run (setting : Setting) (p : Part) (s : Session) {n : Nat}
    (h : (p.run setting s).ending = .ok n) :
    Ended setting (p.visits setting s) p.reached (p.run setting s).tree.reached := by
  induction p, s using run_induction setting generalizing n with
  | alone around s halone =>
    obtain ⟨passed, he, -⟩ := ok_of_map h
    exact ended_alone halone he
  | @conditional around status branches otherwise id s bs cs v r hconducted inner =>
    obtain ⟨passed, he, -⟩ := ok_of_map h
    obtain ⟨m, record, hm, -, -, -, htree⟩ := hconducted.ok he
    have hall := Ended.cons (v := ⟨.conditional status branches otherwise id, s⟩) he (inner hm)
    rw [hconducted.tree] at hall
    show Ended setting (DialogScript.visits setting _ s) (Command.reached _)
      (runCommand setting _ s).tree.reached
    rw [hconducted.visits, reached_conditional hconducted.hasBranch, htree,
      reached_conditional hconducted.hasBranch', ← htree]
    exact hall
  | condition id index span e s =>
    rw [tree_condition]
    exact .nil
  | idle s hidle =>
    obtain ⟨u, hr, -⟩ := hidle.run_eq setting s
    rw [hr, hidle.visits_eq, hidle.reached_eq]
    exact .nil
  | halted hhalted first =>
    rw [hhalted.ending] at h
    cases h
  | continued hcontinued first last =>
    rw [hcontinued.ending] at h
    obtain ⟨more, hmore, -⟩ := ok_of_map h
    rw [hcontinued.visits, hcontinued.splits.reached_eq, hcontinued.tree.reached_eq]
    exact (first hcontinued.first).append (last hmore)

end Part

theorem ended_command (setting : Setting) (c : Command) (s : Session) (passed : Bool)
    (h : (runCommand setting c s).ending = .ok passed) :
    Ended setting (visits setting c s) c.reached (runCommand setting c s).tree.reached :=
  Part.ended_run setting (.command none c) s (congrArg (failureCount <$> ·) h)

/-! ## Fresh commands -/

mutual

/-- Where no command is marked, none that is reached is. -/
theorem fresh_reached : ∀ c : Command, c.faults = 0 → ∀ d ∈ c.reached, d.faults = 0
  | .action _ _, hc, d, hd | .forLoop .., hc, d, hd | .whileLoop .., hc, d, hd => by
    rw [Command.reached, List.mem_singleton] at hd
    exact hd ▸ hc
  | .conditional status branches otherwise id, hc, d, hd => by
    have hparts := hc
    rw [Command.faults_conditional] at hparts
    rw [Command.reached, List.mem_cons] at hd
    rcases hd with rfl | hd
    · exact hc
    split at hd
    · exact absurd hd List.not_mem_nil
    · exact (List.mem_append.1 hd).elim (fresh_branchReached branches (by omega) d)
        (fresh_allReached otherwise (by omega) d)

theorem fresh_allReached : ∀ cs : List Command, Command.allFaults cs = 0 →
    ∀ d ∈ Command.allReached cs, d.faults = 0
  | [], _, d, hd => absurd hd List.not_mem_nil
  | c :: rest, hc, d, hd => by
    rw [Command.allFaults_cons] at hc
    rw [Command.allReached] at hd
    exact (List.mem_append.1 hd).elim (fresh_reached c (by omega) d)
      (fresh_allReached rest (by omega) d)

theorem fresh_branchReached : ∀ branches : List Branch, Command.branchFaults branches = 0 →
    ∀ d ∈ Command.branchReached branches, d.faults = 0
  | [], _, d, hd => absurd hd List.not_mem_nil
  | .mk span condition commands :: rest, hc, d, hd => by
    rw [Command.branchFaults_cons] at hc
    rw [Command.branchReached] at hd
    exact (List.mem_append.1 hd).elim (fresh_allReached commands (by omega) d)
      (fresh_branchReached rest (by omega) d)

end

/-- Visits of a run that no stop has ended, of commands none of which was marked before. -/
structure Completed (setting : Setting) (vs : List Visit) (before after : List Command) : Prop
    extends Ended setting vs before after where
  fresh : ∀ v ∈ vs, v.command.faults = 0

theorem Ended.completed {vs : List Visit} {before after : List Command}
    (h : Ended setting vs before after) (hf : ∀ c ∈ before, c.faults = 0) :
    Completed setting vs before after where
  toEnded := h
  fresh v hv := hf v.command (h.commands ▸ List.mem_map_of_mem hv)

end DialogScript
