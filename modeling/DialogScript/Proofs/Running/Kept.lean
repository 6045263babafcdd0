import DialogScript.Proofs.Running.Interrupted
import DialogScript.Proofs.Running.Placed

/-!
What a run leaves, however it ends: what the commands that it completes leave, one by one. A command
that a stop has ended leaves nothing of its own, and takes nothing back of what was completed in it.
-/

namespace DialogScript

/-- From one table to another, what the completed ones of some visited commands leave one by one. -/
def Keeps (setting : Setting) (t : SymbolTable) (vs : List Visit) (u : SymbolTable) : Prop :=
  ∃ ps : List Placed, ps.map Placed.command =
      (vs.filter (Visit.completes setting)).map (Visit.tree setting) ∧
    Leaves setting t ps u

variable {setting : Setting} {s : Session} {around : Option (Int × Int)}

namespace Keeps

variable {t u w : SymbolTable} {vs ws : List Visit}

theorem nil (setting : Setting) (t : SymbolTable) : Keeps setting t [] t := ⟨[], rfl, .nil t⟩

theorem append (h : Keeps setting t vs u) (h' : Keeps setting u ws w) :
    Keeps setting t (vs ++ ws) w := by
  obtain ⟨ps, hps, first⟩ := h
  obtain ⟨qs, hqs, last⟩ := h'
  refine ⟨ps ++ qs, ?_, first.append last⟩
  rw [List.map_append, hps, hqs, List.filter_append, List.map_append]

/-- After a command that is not completed. -/
theorem notCompleted {v : Visit} (hv : v.completes setting = false) (h : Keeps setting t vs u) :
    Keeps setting t (v :: vs) u := by
  obtain ⟨ps, hps, hleaves⟩ := h
  exact ⟨ps, by rw [List.filter_cons_of_neg (by simp [hv]), hps], hleaves⟩

end Keeps

/-- A command that is completed leaves what the commands in it leave. -/
theorem keeps_ended {c : Command} {passed : Bool} (hc : c.faults = 0) (hs : s.table.Reachable)
    (hb : s.around.conditional = around.map Prod.fst ∧ s.around.branch = around.map Prod.snd)
    (h : (runCommand setting c s).ending = .ok passed) :
    Keeps setting s.table.contents (visits setting c s)
      (runCommand setting c s).session.table.contents := by
  have ended := ended_command setting c s passed h
  refine ⟨_, ?_, leaves_run hc hs hb h⟩
  rw [ended.filter_completes, ended.trees, Command.map_placed]

/-- A command in which no other is run leaves nothing if a stop has ended it. -/
theorem keeps_alone {c : Command} {stop : Stop} (halone : c.RunsAlone setting)
    (hs : s.table.Reachable) (h : (runCommand setting c s).ending = .error stop) :
    Keeps setting s.table.contents (visits setting c s)
      (runCommand setting c s).session.table.contents := by
  have hended : (runCommand setting c s).ending ≠ .ok true := by
    rw [h]
    exact nofun
  rw [visits_alone halone, ((runCommand_alone halone s).atomic hs hended).1]
  exact .notCompleted (Visit.not_completes h) (.nil setting _)

theorem Part.keeps_run (setting : Setting) (p : Part) (s : Session) (hc : p.faults = 0)
    (hs : s.table.Reachable) (hp : p.Stands s) :
    Keeps setting s.table.contents (p.visits setting s)
      (p.run setting s).session.table.contents := by
  induction p, s using run_induction setting with
  | @alone around c s halone =>
    show Keeps setting s.table.contents (DialogScript.visits setting c s)
      (runCommand setting c s).session.table.contents
    -- What is run to its end leaves what it leaves in a run that nothing ends.
    cases h : (runCommand setting c s).ending with
    | ok passed => exact keeps_ended hc hs hp h
    | error stop => exact keeps_alone halone hs h
  | @conditional around status branches otherwise id s bs cs v r hconducted inner =>
    show Keeps setting s.table.contents (DialogScript.visits setting _ s)
      (runCommand setting _ s).session.table.contents
    cases h : (runCommand setting (.conditional status branches otherwise id) s).ending with
    | ok passed => exact keeps_ended hc hs hp h
    | error stop =>
      -- What is inside is run in the journal of the conditional, and leaves it empty.
      obtain ⟨rfl, -⟩ := hconducted.stopped h
      rw [hconducted.visits, contents_conducted hconducted hs]
      exact .notCompleted (Visit.not_completes h)
        (inner (faults_inside hc) hs.openJournal rfl)
  | condition id index span e s =>
    rw [contents_condition]
    exact .nil setting _
  | idle s hidle =>
    rw [(hidle.kept setting s).2, hidle.visits_eq]
    exact .nil setting _
  | halted hhalted first =>
    have hparts := hhalted.splits.faults_eq
    rw [hhalted.visits, hhalted.session]
    exact first (by omega) hs (hhalted.splits.stands hp)
  | @continued p q r s n hcontinued first last =>
    have hparts := hcontinued.splits.faults_eq
    rw [hcontinued.visits, hcontinued.session]
    exact (first (by omega) hs (hcontinued.splits.stands hp)).append
      (last (by omega) (q.reachable_run setting hs) (hcontinued.stands hp))

theorem keeps_command (setting : Setting) (c : Command) (around : Option (Int × Int))
    {s : Session} (hc : c.faults = 0) (hs : s.table.Reachable)
    (hb : s.around.conditional = around.map Prod.fst ∧ s.around.branch = around.map Prod.snd) :
    Keeps setting s.table.contents (visits setting c s)
      (runCommand setting c s).session.table.contents :=
  Part.keeps_run setting (.command around c) s hc hs hb

end DialogScript
