import DialogScript.Proofs.Running.Visit

/-!
The parts of a run. What is run in a conditional falls into parts that are run one after another:
the branches, in each the check of its condition and then its commands, and the last alternative.
A property of trees is proved by one induction over their parts (`Part.induction`), and a property
of runs by another that rests on it (`Part.run_induction`): it holds where a command runs alone, it
passes from two parts to the part that they make up, and from what is inside a conditional to the
conditional.
-/

namespace DialogScript

/-- A command with the number of the conditional around it and the index of its branch, minus one
for the last alternative. -/
structure Placed where
  command : Command
  around : Option (Int × Int)

/-- A part of a run, with where it stands. -/
inductive Part where
  | command (around : Option (Int × Int)) (c : Command)
  | commands (around : Option (Int × Int)) (cs : List Command)
  /-- The check of a condition, and the way into the branch behind it. -/
  | condition (id : Int) (index : Nat) (span : Option Span) (e : Expr)
  | branch (id : Int) (index : Nat) (b : Branch)
  | branches (id : Int) (index : Nat) (bs : List Branch)
  /-- The way into the last alternative. -/
  | last (id : Int)
  | otherwise (id : Int) (cs : List Command)
  /-- What is run in a conditional. -/
  | inside (id : Int) (bs : List Branch) (cs : List Command)

namespace Part

/-- Runs a part, and counts the failures in it. -/
def run (setting : Setting) : Part → Session → Ran Part Nat
  | command around c, s =>
    let ran := runCommand setting c s
    ⟨command around ran.tree, failureCount <$> ran.ending, ran.session⟩
  | commands around cs, s =>
    let ran := runCommands setting cs s
    ⟨commands around ran.tree, ran.ending, ran.session⟩
  | condition id index span e, s =>
    match runCondition setting index e s with
    | (.error stop, s) => ⟨condition id index span e, .error stop, s⟩
    | (.ok held, s) => ⟨condition id index span e, .ok (failureCount held), s.inBranch index⟩
  | branch id index b, s =>
    let ran := runBranch setting index b s
    ⟨branch id index ran.tree, ran.ending, ran.session⟩
  | branches id index bs, s =>
    let ran := runBranches setting index bs s
    ⟨branches id index ran.tree, ran.ending, ran.session⟩
  | last id, s => ⟨last id, .ok 0, s.inBranch (-1)⟩
  | otherwise id cs, s =>
    let ran := runCommands setting cs (s.inBranch (-1))
    ⟨otherwise id ran.tree, ran.ending, ran.session⟩
  | inside id bs cs, s =>
    let ran := (runBranches setting 0 bs s).andThen (·) Prod.mk cs fun s =>
      runCommands setting cs (s.inBranch (-1))
    ⟨inside id ran.tree.1 ran.tree.2, ran.ending, ran.session⟩

/-- The commands that the run of a part visits. -/
def visits (setting : Setting) : Part → Session → List Visit
  | command _ c, s => DialogScript.visits setting c s
  | commands _ cs, s => allVisits setting cs s
  | condition .., _ | last _, _ => []
  | branch _ index b, s => branchVisits setting index b s
  | branches _ index bs, s => branchesVisits setting index bs s
  | otherwise _ cs, s => allVisits setting cs (s.inBranch (-1))
  | inside _ bs cs, s =>
    branchesVisits setting 0 bs s ++ (runBranches setting 0 bs s).following fun s =>
      allVisits setting cs (s.inBranch (-1))

/-- Which conditions held, of those that the run of a part checks itself. -/
def held (setting : Setting) : Part → Session → List Bool
  | condition _ index _ e, s => conditionHeld setting index e s
  | branch _ index b, s => conditionHeld setting index b.condition s
  | branches _ index bs, s => conditionsHeld setting index bs s
  | inside _ bs _, s => conditionsHeld setting 0 bs s
  | command .., _ | commands .., _ | last _, _ | otherwise .., _ => []

/-- The commands that stand in the branches of a conditional directly, from one index on. -/
def branchCommands (id : Int) (index : Nat) : List Branch → List Placed
  | [] => []
  | b :: rest => b.commands.map (⟨·, some (id, index)⟩) ++ branchCommands id (index + 1) rest

/-- The commands that stand in a part directly. -/
def direct : Part → List Placed
  | command around c => [⟨c, around⟩]
  | commands around cs => cs.map (⟨·, around⟩)
  | condition .. | last _ => []
  | branch id index b => b.commands.map (⟨·, some (id, index)⟩)
  | branches id index bs => branchCommands id index bs
  | otherwise id cs => cs.map (⟨·, some (id, -1)⟩)
  | inside id bs cs => branchCommands id 0 bs ++ cs.map (⟨·, some (id, -1)⟩)

/-- Where a run stands when it comes to a part. -/
def Stands (s : Session) : Part → Prop
  | command around _ | commands around _ =>
    s.around.conditional = around.map Prod.fst ∧ s.around.branch = around.map Prod.snd
  | condition id .. | branch id .. | branches id .. | last id | otherwise id _ | inside id .. =>
    s.around.conditional = some id

/-! ## Parts of parts -/

/-- A part is made up of two others, one run after the other. -/
inductive Splits : Part → Part → Part → Prop where
  | commands (around : Option (Int × Int)) (c : Command) (rest : List Command) :
      Splits (commands around (c :: rest)) (command around c) (commands around rest)
  | branches (id : Int) (index : Nat) (b : Branch) (rest : List Branch) :
      Splits (branches id index (b :: rest)) (branch id index b) (branches id (index + 1) rest)
  | branch (id : Int) (index : Nat) (span : Option Span) (e : Expr) (cs : List Command) :
      Splits (branch id index (.mk span e cs)) (condition id index span e)
        (commands (some (id, index)) cs)
  | otherwise (id : Int) (cs : List Command) :
      Splits (otherwise id cs) (last id) (commands (some (id, -1)) cs)
  | inside (id : Int) (bs : List Branch) (cs : List Command) :
      Splits (inside id bs cs) (branches id 0 bs) (otherwise id cs)

/-- A part in which nothing is run. -/
inductive Idle : Part → Prop where
  | noCommands (around : Option (Int × Int)) : Idle (commands around [])
  | noBranches (id : Int) (index : Nat) : Idle (branches id index [])
  | last (id : Int) : Idle (last id)

end Part

variable {setting : Setting} {s : Session} {stop : Stop} {n : Nat} {p q r : Part}

/-! ## One part after another -/

namespace Ran

variable {α β γ δ : Type} {first : Ran α β}

theorem following_of_stop (h : first.ending = .error stop) (next : Session → List γ) :
    first.following next = [] := by
  rw [following, h]

theorem following_of_ok {found : β} (h : first.ending = .ok found) (next : Session → List γ) :
    first.following next = next first.session := by
  rw [following, h]

theorem andThen_of_stop (h : first.ending = .error stop) (count : β → Nat) (join : α → γ → δ)
    (other : γ) (next : Session → Ran γ Nat) :
    first.andThen count join other next = ⟨join first.tree other, .error stop, first.session⟩ := by
  rw [andThen, h]

theorem andThen_of_ok {found : β} (h : first.ending = .ok found) (count : β → Nat)
    (join : α → γ → δ) (other : γ) (next : Session → Ran γ Nat) :
    first.andThen count join other next =
      ⟨join first.tree (next first.session).tree, (count found + ·) <$> (next first.session).ending,
        (next first.session).session⟩ := by
  rw [andThen, h]

end Ran

/-- Counting failures does not change how a run is stopped. -/
theorem ending_of_map {α : Type} {f : α → Nat} {r : Except Stop α} (h : f <$> r = .error stop) :
    r = .error stop := by
  cases r <;> cases h
  rfl

theorem ok_of_map {α : Type} {f : α → Nat} {r : Except Stop α} (h : f <$> r = .ok n) :
    ∃ found, r = .ok found ∧ f found = n := by
  cases r <;> cases h
  exact ⟨_, rfl, rfl⟩

theorem zero_add_map (r : Except Stop Nat) : (0 + ·) <$> r = r := by
  cases r with
  | error stop => rfl
  | ok n => exact congrArg Except.ok (Nat.zero_add n)

namespace Part

/-- The first of two parts is ended by a stop, and the second is not run. -/
structure Halted (setting : Setting) (p q r : Part) (s : Session) (stop : Stop) : Prop where
  splits : Splits p q r
  first : (q.run setting s).ending = .error stop
  ending : (p.run setting s).ending = .error stop
  session : (p.run setting s).session = (q.run setting s).session
  tree : Splits (p.run setting s).tree (q.run setting s).tree r
  visits : p.visits setting s = q.visits setting s
  held : p.held setting s = q.held setting s

/-- Two parts are run one after the other. -/
structure Continued (setting : Setting) (p q r : Part) (s : Session) (n : Nat) : Prop where
  splits : Splits p q r
  first : (q.run setting s).ending = .ok n
  ending : (p.run setting s).ending =
    (n + ·) <$> (r.run setting (q.run setting s).session).ending
  session : (p.run setting s).session = (r.run setting (q.run setting s).session).session
  tree : Splits (p.run setting s).tree (q.run setting s).tree
    (r.run setting (q.run setting s).session).tree
  visits : p.visits setting s =
    q.visits setting s ++ r.visits setting (q.run setting s).session
  held : p.held setting s = q.held setting s ++ r.held setting (q.run setting s).session

section Same

variable {other : Setting}

/-- The run of a command as a part tells its run. -/
theorem run_command_inj {around : Option (Int × Int)} {c : Command}
    (h : (command around c).run setting s = (command around c).run other s) :
    runCommand setting c s = runCommand other c s := by
  simp only [run] at h
  generalize runCommand setting c s = ran at h ⊢
  generalize runCommand other c s = ran' at h ⊢
  obtain ⟨tree, ending, u⟩ := ran
  obtain ⟨tree', ending', u'⟩ := ran'
  obtain ⟨⟨-, rfl⟩, hending, rfl⟩ := Ran.mk.inj h
  -- A command counts as one failure or as none, so the count tells whether it has passed.
  have hsame : ending = ending' := by
    rcases ending with stop | (_ | _) <;> rcases ending' with stop' | (_ | _) <;> cases hending <;>
      rfl
  rw [hsame]

/-- The run of what is inside a conditional as a part tells its run. -/
theorem run_inside_inj {id : Int} {bs : List Branch} {cs : List Command}
    (h : (inside id bs cs).run setting s = (inside id bs cs).run other s) :
    (runBranches setting 0 bs s).andThen (·) Prod.mk cs
        (fun s => runCommands setting cs (s.inBranch (-1))) =
      (runBranches other 0 bs s).andThen (·) Prod.mk cs
        (fun s => runCommands other cs (s.inBranch (-1))) := by
  simp only [run] at h
  generalize (runBranches setting 0 bs s).andThen _ _ _ _ = ran at h ⊢
  generalize (runBranches other 0 bs s).andThen _ _ _ _ = ran' at h ⊢
  obtain ⟨⟨bs, cs⟩, ending, u⟩ := ran
  obtain ⟨⟨bs', cs'⟩, ending', u'⟩ := ran'
  cases h
  rfl

end Same

section Condition

variable {index : Nat} {e : Expr} {u : Session} (id : Int) (span : Option Span)

theorem run_condition_stop (h : runCondition setting index e s = (.error stop, u)) :
    (condition id index span e).run setting s = ⟨condition id index span e, .error stop, u⟩ := by
  rw [run, h]

theorem run_condition_ok {held : Bool} (h : runCondition setting index e s = (.ok held, u)) :
    (condition id index span e).run setting s =
      ⟨condition id index span e, .ok (failureCount held), u.inBranch index⟩ := by
  rw [run, h]

theorem tree_condition (setting : Setting) (index : Nat) (e : Expr) (s : Session) :
    ((condition id index span e).run setting s).tree = condition id index span e := by
  rw [run]
  split <;> rfl

theorem runCondition_session (setting : Setting) (index : Nat) (e : Expr) (s : Session) :
    ∃ ds, (runCondition setting index e s).2 = s.after [] ds := by
  obtain ⟨ds, -, hr⟩ := runCondition_eq setting index e s
  rw [hr]
  split
  · exact ⟨ds, rfl⟩
  · -- The problem is noted after what the evaluation has found.
    next err _ =>
    refine ⟨ds ++ [(Diagnostic.ofError err).attributed (s.current.map fun c => c.kind.name)
      (s.current.bind Running.span)], ?_⟩
    unfold Session.after
    rw [← List.append_assoc]
    rfl
  · exact ⟨ds, rfl⟩

/-- The check of a condition adds some diagnostics, and then goes into the branch unless something
breaks down. -/
theorem session_condition (setting : Setting) (index : Nat) (e : Expr) (s : Session) :
    ∃ ds, ((condition id index span e).run setting s).session = s.after [] ds ∨
      ((condition id index span e).run setting s).session = (s.after [] ds).inBranch index := by
  obtain ⟨ds, hs⟩ := runCondition_session setting index e s
  refine ⟨ds, ?_⟩
  cases hc : runCondition setting index e s with
  | mk result u =>
  rw [hc] at hs
  cases result with
  | error stop =>
    rw [run_condition_stop id span hc]
    exact .inl hs
  | ok held =>
    rw [run_condition_ok id span hc]
    exact .inr (congrArg (Session.inBranch · index) hs)

/-- The check of a condition is stopped only by a breakdown. -/
theorem runCondition_stop (h : runCondition setting index e s = (.error stop, u)) :
    ∃ b, stop = .broken b := by
  obtain ⟨ds, -, hr⟩ := runCondition_eq setting index e s
  rw [hr] at h
  split at h
  · cases h
  · cases h
  · cases h
    exact ⟨_, rfl⟩

theorem stop_condition (h : ((condition id index span e).run setting s).ending = .error stop) :
    ∃ b, stop = .broken b := by
  cases hc : runCondition setting index e s with
  | mk result u =>
  cases result with
  | error stop' =>
    rw [run_condition_stop id span hc] at h
    cases h
    exact runCondition_stop hc
  | ok held =>
    rw [run_condition_ok id span hc] at h
    cases h

theorem contents_condition (setting : Setting) (index : Nat) (e : Expr) (s : Session) :
    ((condition id index span e).run setting s).session.table.contents = s.table.contents := by
  obtain ⟨ds, hu | hu⟩ := session_condition id span setting index e s <;> rw [hu] <;> rfl

end Condition

namespace Splits

theorem run_of_stop (h : Splits p q r) (hq : (q.run setting s).ending = .error stop) :
    ∃ p', Splits p' (q.run setting s).tree r ∧
      p.run setting s = ⟨p', .error stop, (q.run setting s).session⟩ := by
  cases h with
  | commands around c rest =>
    refine ⟨_, .commands around _ rest, ?_⟩
    simp only [run, runCommands, Ran.andThen_of_stop (ending_of_map hq)]
  | branches id index b rest =>
    refine ⟨_, .branches id index _ rest, ?_⟩
    simp only [run, runBranches, Ran.andThen_of_stop (α := Branch) hq]
  | branch id index span e cs =>
    cases hc : runCondition setting index e s with
    | mk result u =>
    cases result with
    | error stop' =>
      rw [run_condition_stop id span hc] at hq ⊢
      cases hq
      refine ⟨_, .branch id index span e cs, ?_⟩
      simp only [run, runBranch, hc]
    | ok held =>
      rw [run_condition_ok id span hc] at hq
      cases hq
  | otherwise id cs => cases hq
  | inside id bs cs =>
    refine ⟨_, .inside id _ cs, ?_⟩
    simp only [run, Ran.andThen_of_stop (α := List Branch) hq]

theorem run_of_ok (h : Splits p q r) (hq : (q.run setting s).ending = .ok n) :
    ∃ p', Splits p' (q.run setting s).tree (r.run setting (q.run setting s).session).tree ∧
      p.run setting s =
        ⟨p', (n + ·) <$> (r.run setting (q.run setting s).session).ending,
          (r.run setting (q.run setting s).session).session⟩ := by
  cases h with
  | commands around c rest =>
    obtain ⟨passed, hc, rfl⟩ := ok_of_map hq
    refine ⟨_, .commands around _ _, ?_⟩
    simp only [run, runCommands, Ran.andThen_of_ok hc]
  | branches id index b rest =>
    refine ⟨_, .branches id index _ _, ?_⟩
    simp only [run, runBranches, Ran.andThen_of_ok (α := Branch) hq]
  | branch id index span e cs =>
    cases hc : runCondition setting index e s with
    | mk result u =>
    cases result with
    | error stop =>
      rw [run_condition_stop id span hc] at hq
      cases hq
    | ok held =>
      rw [run_condition_ok id span hc] at hq ⊢
      cases hq
      refine ⟨_, .branch id index span e _, ?_⟩
      simp only [run, runBranch, hc]
  | otherwise id cs =>
    cases hq
    refine ⟨_, .otherwise id _, ?_⟩
    exact congrArg (Ran.mk _ · _) (zero_add_map _).symm
  | inside id bs cs =>
    refine ⟨_, .inside id _ _, ?_⟩
    simp only [run, Ran.andThen_of_ok (α := List Branch) hq]

theorem visits_eq (h : Splits p q r) (setting : Setting) (s : Session) :
    p.visits setting s = q.visits setting s ++ (q.run setting s).following (r.visits setting) := by
  cases h with
  | commands around c rest =>
    simp only [visits, run, allVisits, Ran.following]
    cases (runCommand setting c s).ending <;> rfl
  | branches id index b rest => simp only [visits, run, branchesVisits, Ran.following]
  | branch id index span e cs =>
    cases hc : runCondition setting index e s with
    | mk result u => cases result <;> simp [visits, run, branchVisits, Ran.following, hc]
  | otherwise id cs => rfl
  | inside id bs cs => simp only [visits, run, Ran.following]

theorem held_eq (h : Splits p q r) (setting : Setting) (s : Session) :
    p.held setting s = q.held setting s ++ (q.run setting s).following (r.held setting) := by
  cases h with
  | commands around c rest =>
    cases hq : (run setting (command around c) s).ending <;> simp [held, Ran.following, hq]
  | branches id index b rest => simp only [held, run, conditionsHeld, Ran.following]
  | branch id index span e cs =>
    cases hc : runCondition setting index e s with
    | mk result u =>
      cases result <;> simp [held, run, conditionHeld, Branch.condition, Ran.following, hc]
  | otherwise id cs => rfl
  | inside id bs cs =>
    cases hq : (run setting (Part.branches id 0 bs) s).ending <;> simp [held, Ran.following, hq]

theorem halted (h : Splits p q r) (hq : (q.run setting s).ending = .error stop) :
    Halted setting p q r s stop := by
  obtain ⟨p', ht, hrun⟩ := h.run_of_stop hq
  refine ⟨h, hq, ?_, ?_, ?_, ?_, ?_⟩
  · rw [hrun]
  · rw [hrun]
  · rw [hrun]
    exact ht
  · rw [h.visits_eq, Ran.following_of_stop hq, List.append_nil]
  · rw [h.held_eq, Ran.following_of_stop hq, List.append_nil]

theorem continued (h : Splits p q r) (hq : (q.run setting s).ending = .ok n) :
    Continued setting p q r s n := by
  obtain ⟨p', ht, hrun⟩ := h.run_of_ok hq
  refine ⟨h, hq, ?_, ?_, ?_, ?_, ?_⟩
  · rw [hrun]
  · rw [hrun]
  · rw [hrun]
    exact ht
  · rw [h.visits_eq, Ran.following_of_ok hq]
  · rw [h.held_eq, Ran.following_of_ok hq]

theorem direct_eq (h : Splits p q r) : p.direct = q.direct ++ r.direct := by
  cases h <;> rfl

/-- The parts that a part is made up of tell what it is. -/
theorem unique {p' : Part} (h : Splits p q r) (h' : Splits p' q r) : p = p' := by
  cases h <;> cases h' <;> rfl

/-- The runs of the parts that a part is made up of tell its run. -/
theorem run_congr (h : Splits p q r) {other : Setting} (hq : q.run setting s = q.run other s)
    (hr : ∀ u, r.run setting u = r.run other u) : p.run setting s = p.run other s := by
  cases hfirst : (q.run setting s).ending with
  | error stop =>
    obtain ⟨p', htree, hrun⟩ := h.run_of_stop hfirst
    rw [hq] at hfirst htree hrun
    obtain ⟨p'', htree', hrun'⟩ := h.run_of_stop hfirst
    rw [hrun, hrun', htree.unique htree']
  | ok n =>
    obtain ⟨p', htree, hrun⟩ := h.run_of_ok hfirst
    rw [hq, hr] at htree hrun
    rw [hq] at hfirst
    obtain ⟨p'', htree', hrun'⟩ := h.run_of_ok hfirst
    rw [hrun, hrun', htree.unique htree']

end Splits

namespace Idle

theorem run_eq (h : Idle p) (setting : Setting) (s : Session) :
    ∃ u, p.run setting s = ⟨p, .ok 0, u⟩ ∧ (u = s ∨ u = s.inBranch (-1)) := by
  cases h with
  | noCommands around => exact ⟨s, rfl, .inl rfl⟩
  | noBranches id index => exact ⟨s, rfl, .inl rfl⟩
  | last id => exact ⟨_, rfl, .inr rfl⟩

theorem ending_eq (h : Idle p) (setting : Setting) (s : Session) :
    (p.run setting s).ending = .ok 0 := by
  cases h <;> rfl

theorem kept (h : Idle p) (setting : Setting) (s : Session) :
    (p.run setting s).tree = p ∧ (p.run setting s).session.table.contents = s.table.contents := by
  cases h <;> exact ⟨rfl, rfl⟩

theorem visits_eq (h : Idle p) (setting : Setting) (s : Session) : p.visits setting s = [] := by
  cases h <;> rfl

theorem held_eq (h : Idle p) (setting : Setting) (s : Session) : p.held setting s = [] := by
  cases h <;> rfl

theorem direct_eq (h : Idle p) : p.direct = [] := by
  cases h <;> rfl

end Idle

end Part

/-! ## Conditionals -/

/-- Where a run stands when it comes to what is inside a conditional. -/
def Session.inside (s : Session) (span : Option Span) (id : Int) : Session :=
  (s.entered .conditional span).inConditional id

/-- How a conditional is left after what is inside it: in which session, and with what ending. -/
inductive Leaving (id : Int) (span : Option Span) (bs : List Branch) (cs : List Command) :
    Except Stop Nat → Session → Session → Except Setback Unit → Prop where
  | stopped (stop : Stop) (u : Session) :
      Leaving id span bs cs (.error stop) u u (.error (.stop stop))
  | unwritable {b : Breakdown} (h : conditionalRecord id bs cs = .error b) (n : Nat)
      (u : Session) : Leaving id span bs cs (.ok n) u u (.error (.stop (.broken b)))
  | recorded {record : Value} (h : conditionalRecord id bs cs = .ok record) (n : Nat)
      (u : Session) :
      Leaving id span bs cs (.ok n) u (u.withTable (recordConditional id record))
        (conditionalEnding n span)

theorem leaveConditional_eq (status : Status) (id : Int) (before : Session)
    (inner : Ran (List Branch × List Command) Nat) :
    ∃ v r, Leaving id status.span inner.tree.1 inner.tree.2 inner.ending inner.session v r ∧
      leaveConditional status id before inner =
        (v.outOf before).finish .conditional
          (.conditional status inner.tree.1 inner.tree.2 id) r := by
  obtain ⟨⟨bs, cs⟩, ending, u⟩ := inner
  cases ending with
  | error stop => exact ⟨_, _, .stopped stop u, rfl⟩
  | ok n =>
    unfold leaveConditional
    cases h : conditionalRecord id bs cs with
    | error b => exact ⟨_, _, .unwritable h n u, rfl⟩
    | ok record => exact ⟨_, _, .recorded h n u, rfl⟩

/-- The run of a conditional in which something is run: its branches and its last alternative come
to `bs` and `cs`, and it is left in the session `v` with the ending `r`. -/
structure Conducted (setting : Setting) (status : Status) (branches : List Branch)
    (otherwise : List Command) (id : Int) (s : Session) (bs : List Branch) (cs : List Command)
    (v : Session) (r : Except Setback Unit) : Prop where
  memory : setting.exhausted ≠ some .conditional
  hasBranch : branches ≠ []
  hasBranch' : bs ≠ []
  tree : ((Part.inside id branches otherwise).run setting (s.inside status.span id)).tree =
    .inside id bs cs
  leaving : Leaving id status.span bs cs
    ((Part.inside id branches otherwise).run setting (s.inside status.span id)).ending
    ((Part.inside id branches otherwise).run setting (s.inside status.span id)).session v r
  run : runCommand setting (.conditional status branches otherwise id) s =
    (v.outOf (s.entered .conditional status.span)).finish .conditional
      (.conditional status bs cs id) r
  visits : visits setting (.conditional status branches otherwise id) s =
    ⟨.conditional status branches otherwise id, s⟩ ::
      (Part.inside id branches otherwise).visits setting (s.inside status.span id)
  held : Visit.held setting ⟨.conditional status branches otherwise id, s⟩ =
    (Part.inside id branches otherwise).held setting (s.inside status.span id)

theorem runBranches_isEmpty (index : Nat) (branches : List Branch) :
    (runBranches setting index branches s).tree.isEmpty = branches.isEmpty := by
  cases branches with
  | nil => rfl
  | cons b rest =>
    rw [runBranches, Ran.andThen]
    split <;> rfl

theorem conducted {status : Status} {branches : List Branch} {otherwise : List Command} {id : Int}
    (h : ¬(Command.conditional status branches otherwise id).RunsAlone setting) (s : Session) :
    ∃ bs cs v r, Conducted setting status branches otherwise id s bs cs v r := by
  obtain ⟨hx, hb⟩ := not_or.1 h
  have hne : ¬branches.isEmpty = true := fun he => hb (List.isEmpty_iff.1 he)
  obtain ⟨v, r, leaving, hrun⟩ := leaveConditional_eq status id (s.entered .conditional status.span)
    ((runBranches setting 0 branches (s.inside status.span id)).andThen (·) Prod.mk otherwise
      fun s => runCommands setting otherwise (s.inBranch (-1)))
  refine ⟨_, _, v, r, hx, hb, ?_, rfl, leaving, ?_, ?_, if_neg hx⟩
  · -- A run changes no number of branches.
    have hsame := @runBranches_isEmpty setting (s.inside status.span id) 0 branches
    rw [Ran.andThen]
    split <;> exact fun heq => hne (hsame ▸ List.isEmpty_iff.2 heq)
  · rw [runCommand, if_neg hx, if_neg hne]
    exact hrun
  · rw [visits, if_neg hx, if_neg hne]
    rfl

/-- A conditional whose failures have been counted passes if there is none, and is marked if there
is one. -/
theorem finish_conditionalEnding (u : Session) (n : Nat) (status : Status) (bs : List Branch)
    (cs : List Command) (id : Int) :
    let ran := u.finish .conditional (.conditional status bs cs id)
      (conditionalEnding n status.span)
    ∃ passed, ran.ending = .ok passed ∧ (passed = true ↔ n = 0) ∧
      ran.tree = .conditional { status with valid := status.valid && passed } bs cs id := by
  unfold conditionalEnding
  split
  · next hn => exact ⟨true, rfl, iff_of_true rfl hn, by rw [Bool.and_true]; rfl⟩
  · next hn => exact ⟨false, rfl, iff_of_false nofun hn, by rw [Bool.and_false]; rfl⟩

namespace Conducted

variable {status : Status} {branches : List Branch} {otherwise : List Command} {id : Int}
  {bs : List Branch} {cs : List Command} {v : Session} {r : Except Setback Unit}
  (h : Conducted setting status branches otherwise id s bs cs v r)

include h

/-- A conditional that no stop has ended has a record, and passes if nothing was counted in it. -/
theorem ok {passed : Bool}
    (he : (runCommand setting (.conditional status branches otherwise id) s).ending = .ok passed) :
    ∃ n record,
      ((Part.inside id branches otherwise).run setting (s.inside status.span id)).ending = .ok n ∧
      (passed = true ↔ n = 0) ∧
      conditionalRecord id bs cs = .ok record ∧
      v = ((Part.inside id branches otherwise).run setting
        (s.inside status.span id)).session.withTable (recordConditional id record) ∧
      (runCommand setting (.conditional status branches otherwise id) s).tree =
        .conditional { status with valid := status.valid && passed } bs cs id := by
  rw [h.run] at he ⊢
  have hleaving := h.leaving
  generalize (Part.run setting _ _).ending = ending at hleaving ⊢
  generalize (Part.run setting _ _).session = u at hleaving ⊢
  -- Of the ways to leave a conditional, only that with a record has an ending of its own.
  cases hleaving with
  | stopped stop => cases stop <;> cases he
  | unwritable hrecord n => cases he
  | @recorded record hrecord n =>
    obtain ⟨_, hending, hpassed, htree⟩ := finish_conditionalEnding
      ((u.withTable (recordConditional id record)).outOf (s.entered .conditional status.span))
      n status bs cs id
    cases hending.symm.trans he
    exact ⟨n, record, rfl, hpassed, hrecord, rfl, htree⟩

/-- A stop that ends a conditional has ended what is inside, or there was no record. -/
theorem stopped
    (he : (runCommand setting (.conditional status branches otherwise id) s).ending =
      .error stop) :
    v = ((Part.inside id branches otherwise).run setting (s.inside status.span id)).session ∧
      ((∃ inner,
        ((Part.inside id branches otherwise).run setting (s.inside status.span id)).ending =
          .error inner ∧
        r = .error (.stop inner)) ∨
      ∃ b, conditionalRecord id bs cs = .error b ∧ stop = .broken b) := by
  rw [h.run] at he
  have hleaving := h.leaving
  generalize (Part.run setting _ _).ending = ending at hleaving ⊢
  generalize (Part.run setting _ _).session = u at hleaving ⊢
  cases hleaving with
  | stopped stop => exact ⟨rfl, .inl ⟨stop, rfl, rfl⟩⟩
  | unwritable hrecord n =>
    cases he
    exact ⟨rfl, .inr ⟨_, hrecord, rfl⟩⟩
  | recorded hrecord n =>
    unfold conditionalEnding at he
    split at he <;> cases he

/-- A conditional that a lack of memory has ended is marked. -/
theorem outOfMemory {m : Shortage}
    (he : (runCommand setting (.conditional status branches otherwise id) s).ending =
      .error (.outOfMemory m)) :
    ∃ inner,
      ((Part.inside id branches otherwise).run setting (s.inside status.span id)).ending =
        .error (.outOfMemory inner) ∧
      m = inner.failing status.span ∧
      v = ((Part.inside id branches otherwise).run setting (s.inside status.span id)).session ∧
      (runCommand setting (.conditional status branches otherwise id) s).tree =
        .conditional { status with valid := false } bs cs id := by
  obtain ⟨hv, ⟨inner, hinner, rfl⟩ | ⟨b, -, hb⟩⟩ := h.stopped he
  · rw [h.run] at he ⊢
    cases inner with
    | broken b => cases he
    | outOfMemory m =>
      cases he
      exact ⟨m, hinner, rfl, hv, rfl⟩
  · cases hb

end Conducted

/-- A conditional without a branch is refused. -/
theorem runCommand_noBranch {status : Status} {otherwise : List Command} {id : Int} {passed : Bool}
    (h : (runCommand setting (.conditional status [] otherwise id) s).ending = .ok passed) :
    passed = false ∧ (runCommand setting (.conditional status [] otherwise id) s).tree =
      .conditional { status with valid := false } [] otherwise id := by
  rw [runCommand] at h ⊢
  by_cases hx : setting.exhausted = some .conditional
  · rw [if_pos hx] at h
    cases h
  · rw [if_neg hx] at h ⊢
    cases h
    exact ⟨rfl, rfl⟩

theorem runsAlone_of_branch {status : Status} {b : Branch} {rest : List Branch}
    {otherwise : List Command} {id : Int} {passed : Bool}
    (h : (runCommand setting (.conditional status (b :: rest) otherwise id) s).ending =
      .ok passed) :
    ¬(Command.conditional status (b :: rest) otherwise id).RunsAlone setting := by
  rintro (hx | hb)
  · rw [runCommand, if_pos hx] at h
    cases h
  · cases hb

theorem visits_alone {c : Command} (h : c.RunsAlone setting) (s : Session) :
    visits setting c s = [⟨c, s⟩] := by
  cases c with
  | conditional status branches otherwise id =>
    rw [visits]
    rcases h with hx | rfl
    · rw [if_pos hx]
    · rw [if_pos List.isEmpty_nil, ite_self]
  | _ => rfl

theorem held_alone {c : Command} (h : c.RunsAlone setting) (s : Session) :
    Visit.held setting ⟨c, s⟩ = [] := by
  cases c with
  | conditional status branches otherwise id =>
    rcases h with hx | rfl
    · exact if_pos hx
    · exact ite_self _
  | _ => rfl

/-! ## The induction -/

theorem kind?_ne_conditional (a : Action) : a.kind? ≠ some .conditional := by
  cases a with
  | select s =>
    show s.target.kind? ≠ _
    rcases s.target with - | ⟨name, required⟩ | ⟨name, maxSel, required⟩
    · exact nofun
    · cases required <;> exact nofun
    · cases required <;> exact nofun
  | _ => exact nofun

/-- What proves a property of all parts, told by what the parts are made of. -/
structure Part.Inductive (motive : Part → Prop) : Prop where
  leaf : ∀ around {c}, c.kind? ≠ some .conditional → motive (.command around c)
  conditional : ∀ around status {branches otherwise id}, motive (.inside id branches otherwise) →
    motive (.command around (.conditional status branches otherwise id))
  condition : ∀ id index span e, motive (.condition id index span e)
  idle : ∀ {p}, Idle p → motive p
  splits : ∀ {p q r}, Splits p q r → motive q → motive r → motive p

namespace Part.Inductive

variable {motive : Part → Prop} (h : Part.Inductive motive)

include h

-- The recursion is that of the tree: the part inside a conditional is no term of the conditional,
-- so it is taken apart here, once for all properties.
mutual

theorem command (around : Option (Int × Int)) : ∀ c : Command, motive (.command around c)
  | .action _ a => h.leaf around (kind?_ne_conditional a)
  | .forLoop .. | .whileLoop .. => h.leaf around nofun
  | .conditional status bs cs id =>
    h.conditional around status (h.splits (.inside id bs cs) (branchList id 0 bs)
      (h.splits (.otherwise id cs) (h.idle (.last id)) (commandList _ cs)))

theorem commandList (around : Option (Int × Int)) :
    ∀ cs : List Command, motive (.commands around cs)
  | [] => h.idle (.noCommands around)
  | c :: rest => h.splits (.commands around c rest) (command around c) (commandList around rest)

theorem oneBranch (id : Int) (index : Nat) : ∀ b : Branch, motive (.branch id index b)
  | .mk span e cs =>
    h.splits (.branch id index span e cs) (h.condition id index span e) (commandList _ cs)

theorem branchList (id : Int) (index : Nat) : ∀ bs : List Branch, motive (.branches id index bs)
  | [] => h.idle (.noBranches id index)
  | b :: rest =>
    h.splits (.branches id index b rest) (oneBranch id index b) (branchList id (index + 1) rest)

end

end Part.Inductive

/-- The induction over the parts of a tree. -/
theorem Part.induction {motive : Part → Prop}
    (leaf : ∀ around {c}, c.kind? ≠ some .conditional → motive (.command around c))
    (conditional : ∀ around status {branches otherwise id},
      motive (.inside id branches otherwise) →
      motive (.command around (.conditional status branches otherwise id)))
    (condition : ∀ id index span e, motive (.condition id index span e))
    (idle : ∀ {p}, Idle p → motive p)
    (splits : ∀ {p q r}, Splits p q r → motive q → motive r → motive p) (p : Part) : motive p := by
  have h : Inductive motive := ⟨leaf, conditional, condition, idle, splits⟩
  have hotherwise (id : Int) (cs : List Command) : motive (.otherwise id cs) :=
    splits (.otherwise id cs) (idle (.last id)) (h.commandList _ cs)
  cases p with
  | command around c => exact h.command around c
  | commands around cs => exact h.commandList around cs
  | condition id index span e => exact condition id index span e
  | branch id index b => exact h.oneBranch id index b
  | branches id index bs => exact h.branchList id index bs
  | last id => exact idle (.last id)
  | otherwise id cs => exact hotherwise id cs
  | inside id bs cs => exact splits (.inside id bs cs) (h.branchList id 0 bs) (hotherwise id cs)

/-- The induction over the parts of a run. -/
theorem Part.run_induction (setting : Setting) {motive : Part → Session → Prop}
    (alone : ∀ around {c} s, c.RunsAlone setting → motive (.command around c) s)
    (conditional : ∀ around {status branches otherwise id s bs cs v r},
      Conducted setting status branches otherwise id s bs cs v r →
      motive (.inside id branches otherwise) (s.inside status.span id) →
      motive (.command around (.conditional status branches otherwise id)) s)
    (condition : ∀ id index span e s, motive (.condition id index span e) s)
    (idle : ∀ {p} s, Idle p → motive p s)
    (halted : ∀ {p q r s stop}, Halted setting p q r s stop → motive q s → motive p s)
    (continued : ∀ {p q r s n}, Continued setting p q r s n → motive q s →
      motive r (q.run setting s).session → motive p s)
    (p : Part) (s : Session) : motive p s := by
  -- A second part is run from the session that the first has left, hence for all sessions.
  induction p using Part.induction generalizing s with
  | leaf around h => exact alone around s (Command.runsAlone_of_kind h)
  | @conditional around status branches otherwise id inner =>
    by_cases halone : (Command.conditional status branches otherwise id).RunsAlone setting
    · exact alone around s halone
    · obtain ⟨bs, cs, v, r, h⟩ := conducted halone s
      exact conditional around h (inner _)
  | condition id index span e => exact condition id index span e s
  | idle h => exact idle s h
  | @splits p q r h first last =>
    cases hfirst : (q.run setting s).ending with
    | error stop => exact halted (h.halted hfirst) (first s)
    | ok n => exact continued (h.continued hfirst) (first s) (last _)

end DialogScript
