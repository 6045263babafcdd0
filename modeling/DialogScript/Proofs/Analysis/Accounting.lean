import DialogScript.Proofs.Analysis.Schedule
import DialogScript.Proofs.Cli.Printed
import DialogScript.Proofs.Running.Completed

/-!
The accounts of an analysis: its errors, the flags that it clears, the commands that it lists as
invalid and its verdict tell of the same failures.
-/

namespace DialogScript

/-- The flags of all commands of a script, in document order. -/
def Script.flags (script : Script) : List Bool :=
  script.blocks.flatMap fun b => Command.allFlags b.commands

/-- The commands of a script that an analysis to its end reaches, in the order of analysis. -/
def Script.reached (script : Script) : List Command :=
  (schedule script.blocks).flatMap fun e => e.command.reached

/-- The places of the commands that stand in blocks directly and are marked as invalid, in the order
of analysis. -/
def invalidPlaces (es : List Entry) : List (Nat × Nat) :=
  es.filterMap fun e => if e.command.valid then none else some (e.block, e.place)

/-- The commands that a pass over scheduled commands visits. -/
def Pass.visits (setting : Setting) (p : Pass) : List Entry → List Visit
  | [] => []
  | e :: rest =>
    if p.aborted then []
    else
      DialogScript.visits setting e.command p.session ++
        match command setting e.block e.place e.command p with
        | .ok (_, p) => visits setting p rest
        | .error _ => []

/-- The commands that an analysis visits. -/
def Script.visits (setting : Setting) (table : SymbolTable) (script : Script) : List Visit :=
  Pass.visits setting { session := { table } } (schedule script.blocks)

/-- The number of commands marked as invalid, of scheduled commands and those in them. -/
def entryFaults (es : List Entry) : Nat := (es.flatMap fun e => e.command.flags).count false

variable {setting : Setting}

/-! ## Counting entries -/

theorem entryFaults_cons (e : Entry) (es : List Entry) :
    entryFaults (e :: es) = e.command.faults + entryFaults es := by
  unfold entryFaults Command.faults
  rw [List.flatMap_cons, List.count_append]

theorem entryFaults_append (es fs : List Entry) :
    entryFaults (es ++ fs) = entryFaults es + entryFaults fs := by
  unfold entryFaults
  rw [List.flatMap_append, List.count_append]

theorem invalidPlaces_append (es fs : List Entry) :
    invalidPlaces (es ++ fs) = invalidPlaces es ++ invalidPlaces fs := List.filterMap_append

theorem entryFaults_eq_zero {es : List Entry} :
    entryFaults es = 0 ↔ ∀ e ∈ es, e.command.faults = 0 := by
  induction es with
  | nil => exact iff_of_true rfl fun _ h => absurd h List.not_mem_nil
  | cons e rest ih => rw [entryFaults_cons, Nat.add_eq_zero_iff, ih, List.forall_mem_cons]

theorem invalidPlaces_of_fresh {es : List Entry} (h : entryFaults es = 0) :
    invalidPlaces es = [] := by
  rw [invalidPlaces, List.filterMap_eq_nil_iff]
  intro e he
  rw [if_pos (Command.valid_of_faults (entryFaults_eq_zero.1 h e he))]

/-! ## One command -/

/-- What a pass over one command does. -/
theorem Pass.command_cases {p q : Pass} {block place : Nat} {c c' : Command}
    (ha : p.aborted = false) (h : Pass.command setting block place c p = .ok (c', q)) :
    let ran := runCommand setting c p.session
    c' = ran.tree ∧
      ((ran.ending = .ok true ∧ q = { p with session := ran.session }) ∨
        (ran.ending = .ok false ∧ q = p.failing ran.session block place) ∨
        ∃ m, ran.ending = .error (.outOfMemory m) ∧
          q = { p.failing { ran.session with
            diagnostics := ran.session.diagnostics ++ m.diagnostics } block place with
            aborted := true }) := by
  dsimp only
  have hrun : ¬(p.aborted = true) := by simp [ha]
  rw [Pass.command, if_neg hrun] at h
  unfold runTopmost at h
  dsimp only at h
  cases hr : (runCommand setting c p.session).ending with
  | ok passed =>
    rw [hr] at h
    dsimp only at h
    rw [hr] at h
    cases passed with
    | true =>
      cases h
      exact ⟨rfl, .inl ⟨rfl, rfl⟩⟩
    | false =>
      cases h
      exact ⟨rfl, .inr (.inl ⟨rfl, rfl⟩)⟩
  | error stop =>
    rw [hr] at h
    cases stop with
    | outOfMemory m =>
      cases h
      exact ⟨rfl, .inr (.inr ⟨m, rfl, rfl⟩)⟩
    | broken b =>
      dsimp only at h
      rw [hr] at h
      cases h

/-- A command after which a pass goes on has been run to its end. -/
theorem Pass.command_ended {p q : Pass} {block place : Nat} {c c' : Command}
    (ha : p.aborted = false) (h : Pass.command setting block place c p = .ok (c', q))
    (hq : q.aborted = false) :
    c' = (runCommand setting c p.session).tree ∧
      q.session = (runCommand setting c p.session).session ∧
      ∃ passed, (runCommand setting c p.session).ending = .ok passed := by
  obtain ⟨htree, ⟨hr, rfl⟩ | ⟨hr, rfl⟩ | ⟨m, hr, rfl⟩⟩ := Pass.command_cases ha h
  · exact ⟨htree, rfl, true, hr⟩
  · exact ⟨htree, rfl, false, hr⟩
  · cases hq

theorem errors_shortage (s : Session) (m : Shortage) :
    Session.errors { s with diagnostics := s.diagnostics ++ m.diagnostics } =
      s.errors + m.commands := by
  unfold Session.errors
  dsimp only
  rw [Diagnostic.errorCount_append]
  congr 1
  simp [Diagnostic.errorCount, Diagnostic.ofSeverity, Shortage.diagnostics, Shortage.diagnostic,
    Diagnostic.ofError, Diagnostic.attributed]

/-- What a stretch of a pass adds to its accounts: the errors are those of marked commands and
failed conditions, the commands listed as invalid are the marked ones, and there is no fault at all
where none is listed. -/
structure Accounted (p q : Pass) (es : List Entry) (failed : Nat) : Prop where
  errors : q.session.errors = p.session.errors + entryFaults es + failed
  invalid : q.invalid = p.invalid ++ invalidPlaces es
  clean : invalidPlaces es = [] → entryFaults es + failed = 0

namespace Accounted

variable {p q : Pass} {e : Entry} {failed : Nat}

/-- A command that leaves no fault is not listed. -/
theorem of_clean (hfaults : e.command.faults = 0) (hfailed : failed = 0)
    (herrors : q.session.errors = p.session.errors + e.command.faults + failed)
    (hlist : q.invalid = p.invalid) : Accounted p q [e] failed := by
  have hone : entryFaults [e] = e.command.faults := entryFaults_cons e []
  constructor
  · rw [hone]
    exact herrors
  · rw [hlist, invalidPlaces_of_fresh (hone.trans hfaults), List.append_nil]
  · intro _
    rw [hone, hfaults, hfailed]

/-- A marked command is listed. -/
theorem of_marked (hmarked : e.command.valid = false)
    (herrors : q.session.errors = p.session.errors + e.command.faults + failed)
    (hlist : q.invalid = p.invalid ++ [(e.block, e.place)]) : Accounted p q [e] failed := by
  have hplaces : invalidPlaces [e] = [(e.block, e.place)] := by
    simp [invalidPlaces, hmarked]
  constructor
  · rw [entryFaults_cons]
    exact herrors
  · rw [hplaces, hlist]
  · intro hnone
    rw [hplaces] at hnone
    cases hnone

end Accounted

theorem accounted_command {p q : Pass} {e : Entry} {c : Command} (hc : e.command.faults = 0)
    (ha : p.aborted = false)
    (h : Pass.command setting e.block e.place e.command p = .ok (c, q)) :
    Accounted p q [{ e with command := c }]
      (failedConditions setting (visits setting e.command p.session)) := by
  have hmarked : Marked (runCommand setting e.command p.session) :=
    marked_command (Command.valid_of_faults hc)
  have hbalance := balanced_command setting e.command p.session hc
  obtain ⟨rfl, ⟨hr, rfl⟩ | ⟨hr, rfl⟩ | ⟨m, hr, rfl⟩⟩ := Pass.command_cases ha h
  · obtain ⟨hfaults, hfailed⟩ := clean_command setting e.command p.session hc hr
    exact .of_clean hfaults hfailed (hbalance 0 (by rw [hr]; rfl)) rfl
  · exact .of_marked (hmarked.ok false hr) (hbalance 0 (by rw [hr]; rfl)) rfl
  · -- Memory runs out: what is owed is reported as the command is left.
    refine .of_marked (hmarked.outOfMemory m hr) ?_ rfl
    have herrors := hbalance m.commands (by rw [hr]; rfl)
    rw [← herrors]
    exact errors_shortage _ m

/-! ## Whole passes -/

namespace Accounted

variable {p q r : Pass} {es fs : List Entry} {m n : Nat}

theorem idle (h : entryFaults es = 0) : Accounted p p es 0 := by
  constructor
  · rw [h]
    rfl
  · rw [invalidPlaces_of_fresh h, List.append_nil]
  · intro _
    rw [h]

theorem append (h : Accounted p q es m) (h' : Accounted q r fs n) :
    Accounted p r (es ++ fs) (m + n) := by
  constructor
  · rw [h'.errors, h.errors, entryFaults_append]
    omega
  · rw [h'.invalid, h.invalid, invalidPlaces_append, List.append_assoc]
  · intro hnone
    rw [invalidPlaces_append] at hnone
    obtain ⟨hfirst, hlast⟩ := List.append_eq_nil_iff.1 hnone
    have hes := h.clean hfirst
    have hfs := h'.clean hlast
    rw [entryFaults_append]
    omega

end Accounted

namespace Pass

variable {p q : Pass}

theorem visits_of_aborted (ha : p.aborted = true) (es : List Entry) :
    visits setting p es = [] := by
  cases es with
  | nil => rfl
  | cons e rest => rw [visits, if_pos ha]

theorem visits_cons {e : Entry} {c : Command} (rest : List Entry) (ha : p.aborted = false)
    (h : command setting e.block e.place e.command p = .ok (c, q)) :
    visits setting p (e :: rest) =
      DialogScript.visits setting e.command p.session ++ visits setting q rest := by
  have hrun : ¬p.aborted = true := by simp [ha]
  rw [visits, if_neg hrun, h]

end Pass

theorem accounted_through {p q : Pass} {es es' : List Entry} (hc : entryFaults es = 0)
    (h : Pass.through setting p es = .ok (es', q)) :
    Accounted p q es' (failedConditions setting (Pass.visits setting p es)) := by
  replace h := Pass.course_of_through h
  induction h with
  | done p => exact .idle rfl
  | idle ha es =>
    rw [Pass.visits_of_aborted ha]
    exact .idle hc
  | step ha hcommand hrest ih =>
    rw [entryFaults_cons] at hc
    have hfirst := accounted_command (by omega) ha hcommand
    rw [Pass.visits_cons _ ha hcommand, failedConditions_append]
    exact hfirst.append (ih (by omega))

/-- A pass that comes to its end has run each command that it reaches to its end. -/
theorem ended_through {p q : Pass} {es es' : List Entry}
    (h : Pass.through setting p es = .ok (es', q)) (hq : q.aborted = false) :
    Ended setting (Pass.visits setting p es) (es.flatMap fun e => e.command.reached)
      (es'.flatMap fun e => e.command.reached) := by
  replace h := Pass.course_of_through h
  induction h with
  | done p => exact .nil
  | idle ha es =>
    rw [ha] at hq
    cases hq
  | @step p u q e rest rest' c ha hcommand hrest ih =>
    obtain ⟨rfl, -, passed, hr⟩ := Pass.command_ended ha hcommand (hrest.running hq)
    rw [Pass.visits_cons rest ha hcommand, List.flatMap_cons, List.flatMap_cons]
    exact (ended_command setting e.command p.session passed hr).append (ih hq)

/-- Where no scheduled command is marked, none that is reached in one is. -/
theorem faults_reached {es : List Entry} (hc : entryFaults es = 0) :
    ∀ c ∈ es.flatMap fun e => e.command.reached, c.faults = 0 := by
  intro c hreached
  obtain ⟨e, he, hce⟩ := List.mem_flatMap.1 hreached
  exact fresh_reached e.command (entryFaults_eq_zero.1 hc e he) c hce

/-- If no command was marked before, none that is run was. -/
theorem completed_through {p q : Pass} {es es' : List Entry} (hc : entryFaults es = 0)
    (h : Pass.through setting p es = .ok (es', q)) (hq : q.aborted = false) :
    Completed setting (Pass.visits setting p es) (es.flatMap fun e => e.command.reached)
      (es'.flatMap fun e => e.command.reached) :=
  (ended_through h hq).completed (faults_reached hc)

/-! ## The whole script -/

theorem entryFaults_blockEntries (block place : Nat) (cs : List Command) :
    entryFaults (blockEntries block place cs) = Command.allFaults cs := by
  induction cs generalizing place with
  | nil => rfl
  | cons c rest ih => rw [blockEntries, entryFaults_cons, ih, Command.allFaults_cons]

/-- Each block is of one kind, and its commands are scheduled with those of that kind. -/
theorem entryFaults_kindEntries (place : Nat) (bs : List Block) :
    entryFaults (kindEntries .asm place bs) + entryFaults (kindEntries .gui place bs) +
        entryFaults (kindEntries .tab place bs) =
      (bs.flatMap fun b => Command.allFlags b.commands).count false := by
  induction bs generalizing place with
  | nil => rfl
  | cons b rest ih =>
    have hrest := ih (place + 1)
    have hthis : entryFaults (blockEntries place 0 b.commands) =
        (Command.allFlags b.commands).count false := entryFaults_blockEntries place 0 b.commands
    have hnone : entryFaults [] = 0 := rfl
    -- Exactly one of the three schedules takes the commands of the block.
    simp only [kindEntries, entryFaults_append, List.flatMap_cons, List.count_append]
    cases b.kind
    all_goals
      simp only [reduceCtorEq, if_true, if_false, hthis, hnone]
      omega

/-- The commands that stand in blocks directly are scheduled once each. -/
theorem entryFaults_schedule (script : Script) :
    entryFaults (schedule script.blocks) = script.flags.count false := by
  have hkinds : schedule script.blocks = kindEntries .asm 0 script.blocks ++
      (kindEntries .gui 0 script.blocks ++ (kindEntries .tab 0 script.blocks ++ [])) := rfl
  calc entryFaults (schedule script.blocks)
      = entryFaults (kindEntries .asm 0 script.blocks) +
          entryFaults (kindEntries .gui 0 script.blocks) +
          entryFaults (kindEntries .tab 0 script.blocks) := by
        rw [hkinds, List.append_nil, entryFaults_append, entryFaults_append, Nat.add_assoc]
    _ = script.flags.count false := entryFaults_kindEntries 0 script.blocks

/-- Where no command of a script is marked, none that is scheduled is. -/
theorem entryFaults_unmarked {script : Script} (hf : ∀ f ∈ script.flags, f = true) :
    entryFaults (schedule script.blocks) = 0 := by
  rw [entryFaults_schedule, List.count_eq_zero]
  intro hmem
  cases hf false hmem

theorem Pass.indexed_eq (p : Pass) :
    p.indexed.session.diagnostics = p.session.diagnostics ∧ p.indexed.invalid = p.invalid ∧
      p.indexed.aborted = p.aborted := by
  unfold Pass.indexed
  split <;> exact ⟨rfl, rfl, rfl⟩

/-- An analysis that comes to its end indexes the table that its commands have left. -/
theorem Script.analyze_ended {table : SymbolTable} {script : Script} {a : Analysis}
    (h : script.analyze setting table = .ok a) (hend : a.pass.aborted = false) :
    ∃ p, Pass.through setting { session := { table } } (schedule script.blocks) =
        .ok (schedule a.script.blocks, p) ∧
      p.aborted = false ∧ a.table = p.session.table.indexWatchers := by
  obtain ⟨p, hthrough, hpass⟩ := Script.analyze_through h
  have hp : p.aborted = false := by
    rw [hpass, p.indexed_eq.2.2] at hend
    exact hend
  refine ⟨p, hthrough, hp, ?_⟩
  rw [Analysis.table, hpass, Pass.indexed, if_neg (by simp [hp])]
  rfl

/-- Each error of an analysis stands for a command that it marked or for a condition that failed,
the marked commands that stand in blocks directly are those that it lists, and the verdict is that
of the list. The check that made it exits with zero exactly if it came to its end without an error
and its report can be printed. In an analysis that comes to its end, a conditional that is reached
is marked exactly if it has no branch, a condition of it failed, or a command that stands in it
directly is marked. -/
theorem Script.analyze_accounts {setting : Setting} {table : SymbolTable} {script : Script}
    {a : Analysis} (h : script.analyze setting table = .ok a) (hf : ∀ f ∈ script.flags, f = true) :
    Diagnostic.errorCount a.diagnostics =
        a.script.flags.count false + failedConditions setting (script.visits setting table) ∧
      a.pass.invalid = invalidPlaces (schedule a.script.blocks) ∧
      (a.hasErrors = true ↔ a.pass.invalid ≠ []) ∧
      (∀ w file settings, Cli.checkScript w file settings = .ok ⟨file, a⟩ →
        (Cli.exitCode (Cli.run w (.check file settings)) = 0 ↔
          a.pass.aborted = false ∧ (∀ d ∈ a.diagnostics, d.severity ≠ .error) ∧
            Cli.Checked.Printable ⟨file, a⟩ settings)) ∧
      (a.pass.aborted = false →
        (script.visits setting table).map (Visit.tree setting) = a.script.reached ∧
        ∀ v ∈ script.visits setting table, ∀ status branches otherwise id,
          v.command = .conditional status branches otherwise id →
          ((v.tree setting).valid = false ↔
            branches = [] ∨ false ∈ v.held setting ∨
              ∃ c ∈ (v.tree setting).children, c.valid = false)) := by
  obtain ⟨p, hp, hpass⟩ := Script.analyze_through h
  obtain ⟨hdiagnostics, hinvalid, haborted⟩ := p.indexed_eq
  rw [← hpass] at hdiagnostics hinvalid haborted
  have hfresh : entryFaults (schedule script.blocks) = 0 := entryFaults_unmarked hf
  have haccounted := accounted_through hfresh hp
  have herrors : Diagnostic.errorCount a.diagnostics =
      entryFaults (schedule a.script.blocks) +
        failedConditions setting (script.visits setting table) := by
    have hcount := haccounted.errors
    rw [show Session.errors { table } = 0 from rfl, Nat.zero_add] at hcount
    rw [Analysis.diagnostics, hdiagnostics]
    exact hcount
  have hlisted : a.pass.invalid = invalidPlaces (schedule a.script.blocks) := by
    rw [hinvalid, haccounted.invalid]
    rfl
  -- An error that stands for a failed condition comes with a marked command around it.
  have hnone : Diagnostic.errorCount a.diagnostics = 0 ↔ a.pass.invalid = [] := by
    rw [herrors, hlisted]
    exact ⟨fun hzero => invalidPlaces_of_fresh (by omega), haccounted.clean⟩
  refine ⟨?_, hlisted, ?_, ?_, ?_⟩
  · rw [herrors, entryFaults_schedule]
  · rw [Analysis.hasErrors, decide_eq_true_eq, Nat.pos_iff_ne_zero, Ne, hnone]
  · intro w file settings hchecked
    rw [Cli.exitCode_check, hchecked, ← Diagnostic.errorCount_eq_zero, hnone]
    simp only [Except.ok.injEq, exists_eq_left', Cli.Checked.exitCode_report]
  · intro hend
    have hcompleted := completed_through hfresh hp (haborted ▸ hend)
    refine ⟨hcompleted.trees, ?_⟩
    rintro ⟨_, s⟩ hv status branches otherwise id rfl
    obtain ⟨passed, hpassed⟩ := hcompleted.ended _ hv
    exact invalid_conditional_iff (hcompleted.fresh _ hv) hpassed

/-- Surroundings in which every path leads to a file with some content. -/
def holding (content : Data) : Cli.World := { find := fun _ => .file content }

/-- A command as data, in a block of its own. -/
def oneCommand (command : Data) : Data :=
  .dict [("blocks", .list [.dict [("kind", .text "GUI"), ("commands", .list [command])]])]

/-- A conditional with one branch: its condition reads a name that is not bound, and the command in
it passes. -/
def unboundCondition : Data :=
  oneCommand (.dict [("node", .text "IfCommand"), ("branches", .list [
    .dict [("node", .text "IfBranch"),
      ("condition", .dict [("node", .text "VariableRef"), ("name", .text "A")]),
      ("commands", .list [.dict [("node", .text "InvalidateParam"), ("name", .text "B")]])]])])

theorem analyze_accounts_unboundCondition :
    ∃ script a, (holding unboundCondition).script "a" = .ok script ∧
      script.analyze {} {} = .ok a ∧ (∀ f ∈ script.flags, f = true) ∧
      Diagnostic.errorCount a.diagnostics = 1 + 1 ∧ a.hasErrors = true ∧
      Cli.checkScript (holding unboundCondition) "a" {} = .ok ⟨"a", a⟩ ∧
      Cli.exitCode (Cli.run (holding unboundCondition) (.check "a" {})) ≠ 0 ∧
      a.pass.aborted = false ∧
      ∃ v ∈ script.visits {} {}, v.held {} = [false] ∧ (v.tree {}).valid = false := by
  obtain ⟨script, hscript⟩ : ∃ script, (holding unboundCondition).script "a" = .ok script :=
    ⟨_, rfl⟩
  obtain ⟨a, h, hchecked⟩ : ∃ a, script.analyze {} {} = .ok a ∧
      Cli.checkScript (holding unboundCondition) "a" {} = .ok ⟨"a", a⟩ := by
    cases hscript
    exact ⟨_, rfl, rfl⟩
  have hf : ∀ f ∈ script.flags, f = true := by
    cases hscript
    decide
  have hmarked : a.script.flags.count false = 1 := by
    cases hscript
    cases h
    rfl
  have hend : a.pass.aborted = false := by
    cases hscript
    cases h
    rfl
  obtain ⟨herrors, -, hverdict, hexit, hcompleted⟩ := Script.analyze_accounts h hf
  have hcount : Diagnostic.errorCount a.diagnostics = 1 + 1 := by
    rw [herrors, hmarked]
    cases hscript
    rfl
  refine ⟨script, a, hscript, h, hf, hcount, hverdict.2 ?_, hchecked, fun hzero => ?_, hend, ?_⟩
  · cases hscript
    cases h
    exact List.cons_ne_nil _ _
  · have hnone := Diagnostic.errorCount_eq_zero.2 ((hexit _ _ _ hchecked).1 hzero).2.1
    omega
  · obtain ⟨-, hmarks⟩ := hcompleted hend
    cases hscript
    have hfailed := (hmarks _ List.mem_cons_self _ _ _ _ rfl).2 (.inr (.inl List.mem_cons_self))
    exact ⟨_, List.mem_cons_self, rfl, hfailed⟩

/-- A command that passes with a warning, and has plain data for its place. -/
def unreadPlace : Data :=
  oneCommand (.dict [("node", .text "InvalidateParam"), ("name", .text "A"), ("span", .int 5)])

/-- The analysis comes to its end without an error, and the check exits with one. -/
theorem analyze_accounts_unreadPlace :
    ∃ script a, (holding unreadPlace).script "a" = .ok script ∧
      script.analyze {} {} = .ok a ∧ (∀ f ∈ script.flags, f = true) ∧
      Cli.checkScript (holding unreadPlace) "a" {} = .ok ⟨"a", a⟩ ∧
      a.pass.aborted = false ∧ (∀ d ∈ a.diagnostics, d.severity ≠ .error) ∧
      Cli.exitCode (Cli.run (holding unreadPlace) (.check "a" {})) = 1 :=
  ⟨_, _, rfl, rfl, by decide, rfl, rfl, by decide, rfl⟩

end DialogScript
