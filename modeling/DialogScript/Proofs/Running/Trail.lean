import DialogScript.Proofs.Checking.Effect
import DialogScript.Proofs.Running.Lasting

/-!
The trail of a run. Apart from records, every command that a run visits finds the table as the one
visited before it has left it, and only actions that pass change it. So what a run does to the
bindings, the option maps and the shared lists is what its passing actions do, one after another, at
every depth and however the run ends.
-/

namespace DialogScript

/-- What is in the table, its journals and its records apart. -/
def SymbolTable.unrecorded (t : SymbolTable) : SymbolTable :=
  { t with conditionals := [], assignments := [], journals := [] }

section

variable {t u : SymbolTable}

theorem unrecorded_of_contents (h : t.contents = u.contents) : t.unrecorded = u.unrecorded := by
  show t.contents.unrecorded = u.contents.unrecorded
  rw [h]

theorem binding?_of_unrecorded (h : t.unrecorded = u.unrecorded) (name : String) :
    t.binding? name = u.binding? name := by
  show t.unrecorded.binding? name = u.unrecorded.binding? name
  rw [h]

theorem lookup_of_unrecorded (h : t.unrecorded = u.unrecorded) (name : String) :
    t.lookup name = u.lookup name := by
  unfold SymbolTable.lookup
  rw [binding?_of_unrecorded h]

theorem baseline_of_unrecorded (h : t.unrecorded = u.unrecorded) (name : String) :
    t.baseline name = u.baseline name := by
  show t.unrecorded.baseline name = u.unrecorded.baseline name
  rw [h]

theorem trackedList_of_unrecorded (h : t.unrecorded = u.unrecorded) (list : TrackedList) :
    t.trackedList list = u.trackedList list := by
  show t.unrecorded.trackedList list = u.unrecorded.trackedList list
  rw [h]

end

namespace Visit

/-- The action that a visited command is, if it passes. -/
def passed? (setting : Setting) (v : Visit) : Option Action :=
  match v.command, (v.ran setting).ending with
  | .action _ a, .ok true => some a
  | _, _ => none

theorem kind?_of_passed {setting : Setting} {v : Visit} {a : Action}
    (h : v.passed? setting = some a) : v.command.kind? = a.kind? := by
  unfold passed? at h
  split at h
  · rename_i hc _
    cases h
    rw [hc]
    rfl
  · cases h

/-- The table that a visited command leaves by itself: that of a conditional is left by the commands
in it. -/
def after (setting : Setting) (v : Visit) : SymbolTable :=
  match v.command with
  | .action .. => (v.ran setting).session.table
  | _ => v.session.table

end Visit

/-- A trail from one table to another: each visited command finds what the one before it has left,
apart from records. -/
inductive Trail (setting : Setting) : SymbolTable → List Visit → SymbolTable → Prop where
  | done {t u : SymbolTable} (h : u.unrecorded = t.unrecorded) : Trail setting t [] u
  | step {t u : SymbolTable} {v : Visit} {vs : List Visit}
      (h : v.session.table.unrecorded = t.unrecorded) (hv : v.session.table.Reachable)
      (rest : Trail setting (v.after setting) vs u) : Trail setting t (v :: vs) u

/-- The table at a moment of a run: the one that the next visited command finds, or that is left. -/
def tableAt (later : List Visit) (left : SymbolTable) : SymbolTable :=
  match later with
  | [] => left
  | v :: _ => v.session.table

variable {setting : Setting} {s : Session}

namespace Trail

variable {t u w : SymbolTable} {vs ws : List Visit}

theorem refl (setting : Setting) (t : SymbolTable) : Trail setting t [] t := .done rfl

theorem of_same (h : Trail setting t vs u) (ht : t.unrecorded = w.unrecorded) :
    Trail setting w vs u := by
  cases h with
  | done h => exact .done (h.trans ht)
  | step h hv rest => exact .step (h.trans ht) hv rest

theorem append (h : Trail setting t vs u) (h' : Trail setting u ws w) :
    Trail setting t (vs ++ ws) w := by
  induction h with
  | done h => exact h'.of_same h
  | step h hv _ ih => exact .step h hv (ih h')

theorem ended (h : Trail setting t vs u) (hu : w.unrecorded = u.unrecorded) :
    Trail setting t vs w := by
  have hall := h.append (.done hu)
  rwa [List.append_nil] at hall

theorem reachable (h : Trail setting t vs u) : ∀ v ∈ vs, v.session.table.Reachable := by
  induction h with
  | done => exact fun _ hv => absurd hv List.not_mem_nil
  | step _ hv _ ih => exact List.forall_mem_cons.2 ⟨hv, ih⟩

/-- A trail up to a moment. -/
theorem upTo {before later : List Visit} (h : Trail setting t (before ++ later) u) :
    Trail setting t before (tableAt later u) := by
  induction before generalizing t with
  | nil =>
    cases h with
    | done h => exact .done h
    | step h => exact .done h
  | cons v rest ih =>
    cases h with
    | step h hv hrest => exact .step h hv (ih hrest)

/-- A trail from a moment on. -/
theorem onward {before later : List Visit} (h : Trail setting t (before ++ later) u) :
    Trail setting (tableAt later u) later u := by
  induction before generalizing t with
  | nil =>
    cases h with
    | done h => exact .refl setting u
    | step h hv rest => exact .step rfl hv rest
  | cons v rest ih =>
    cases h with
    | step h hv hrest => exact ih hrest

/-- A trail after a visited command. -/
theorem past {before later : List Visit} {v : Visit}
    (h : Trail setting t (before ++ v :: later) u) : Trail setting (v.after setting) later u := by
  cases h.onward with
  | step _ _ rest => exact rest

end Trail

/-! ## What a visited command does -/

/-- A visited command leaves the table as it finds it, unless it is an action that passes. -/
theorem Visit.after_effect (setting : Setting) {v : Visit} (hv : v.session.table.Reachable) :
    (v.passed? setting = none ∧ v.after setting = v.session.table) ∨
      ∃ a kind binding others, v.passed? setting = some a ∧ v.command.kind? = some kind ∧
        Check.Effect ⟨kind, setting.host⟩ v.session a binding others ∧
        (v.after setting).contents = (v.session.table.applyAll (binding ++ others)).contents := by
  obtain ⟨c, s⟩ := v
  cases c with
  | action status a =>
    have hran : Visit.ran setting ⟨.action status a, s⟩ = runAction setting status a s := by
      rw [Visit.ran, runCommand]
    have hafter : Visit.after setting ⟨.action status a, s⟩ =
        (runAction setting status a s).session.table := congrArg (fun ran => ran.session.table) hran
    -- Only an action that passes has an effect: any other is taken back.
    by_cases hp : (runAction setting status a s).ending = .ok true
    · obtain ⟨kind, u, hk, hpasses, hu⟩ := runAction_passed hp
      obtain ⟨binding, others, heffect, rfl⟩ := Check.action_effect hpasses
      have hpassed : Visit.passed? setting ⟨.action status a, s⟩ = some a := by
        unfold Visit.passed?
        rw [hran, hp]
      exact .inr ⟨a, kind, binding, others, hpassed, hk, heffect, by rw [hafter, hu]⟩
    · refine .inl ⟨?_, hafter.trans ((runAction_alone status a).atomic hv hp).1⟩
      unfold Visit.passed?
      rw [hran]
      split
      · rename_i heq
        exact absurd heq hp
      · rfl
  | _ => exact .inl ⟨rfl, rfl⟩

theorem Check.NameEffect.of_contents {p : Place} {a : Action} {u w : SymbolTable} {name : String}
    (h : NameEffect p s a u name) (hw : w.contents = u.contents) : NameEffect p s a w name := by
  have hbinding : w.binding? name = u.binding? name := congrArg (fun t => t.binding? name) hw
  have hbaseline : w.baseline name = u.baseline name := congrArg (fun t => t.baseline name) hw
  cases h with
  | kept hd hb hl => exact .kept hd (hbinding.trans hb) (hbaseline.trans hl)
  | first hd hname hid hfree hv ht hb hl =>
    exact .first hd hname hid hfree hv ht (hbinding.trans hb) (hbaseline.trans hl)
  | again hd hname hr hbound ht hb hl =>
    exact .again hd hname hr hbound ht (hbinding.trans hb) (hbaseline.trans hl)
  | replaced hd hname hr hbound hv ht hb hl =>
    exact .replaced hd hname hr hbound hv ht (hbinding.trans hb) (hbaseline.trans hl)

/-- What a visited command makes of a name. -/
theorem Visit.after_name (setting : Setting) {v : Visit} (hv : v.session.table.Reachable)
    (name : String) :
    (v.passed? setting = none ∧ v.after setting = v.session.table) ∨
      ∃ a kind, v.passed? setting = some a ∧ v.command.kind? = some kind ∧
        Check.NameEffect ⟨kind, setting.host⟩ v.session a (v.after setting) name := by
  rcases Visit.after_effect setting hv with h | ⟨a, kind, _, _, ha, hk, he, hc⟩
  · exact .inl h
  · exact .inr ⟨a, kind, ha, hk, (he.name name).of_contents hc⟩

/-! ## Runs -/

theorem unrecorded_setRecord (t : SymbolTable) (kind : RecordKind) (id : Int) (v : Value) :
    (t.setRecord kind id v).unrecorded = t.unrecorded := by
  have hlog (t : SymbolTable) (e : Undo) : (t.log e).unrecorded = t.unrecorded := by
    unfold SymbolTable.log
    split <;> rfl
  unfold SymbolTable.setRecord
  rw [hlog]
  cases kind <;> rfl

theorem trail_alone {c : Command} (h : c.RunsAlone setting) (hs : s.table.Reachable) :
    Trail setting s.table [⟨c, s⟩] (runCommand setting c s).session.table := by
  refine .step rfl hs (.done ?_)
  rcases table_alone h hs with hsame | ⟨status, a, rfl, -⟩
  · rw [hsame]
    cases c with
    | action status a => exact congrArg SymbolTable.unrecorded hsame.symm
    | _ => rfl
  · rfl

theorem Part.trail_run (setting : Setting) (p : Part) (s : Session) (hs : s.table.Reachable) :
    Trail setting s.table (p.visits setting s) (p.run setting s).session.table := by
  -- The trail starts with the conditional itself, which writes nothing but its record at the end.
  induction p, s using run_induction setting with
  | @alone around c s h =>
    show Trail setting s.table (DialogScript.visits setting c s)
      (runCommand setting c s).session.table
    rw [visits_alone h]
    exact trail_alone h hs
  | @conditional around status branches otherwise id s bs cs v r h inner =>
    show Trail setting s.table (DialogScript.visits setting _ s)
      (runCommand setting _ s).session.table
    rw [h.visits]
    have inside := (inner hs.openJournal).of_same (w := s.table) rfl
    refine .step rfl hs (inside.ended ?_)
    -- The record that a conditional leaves is all that comes after the commands in it.
    refine (unrecorded_of_contents (contents_conducted h hs)).trans ?_
    show v.table.contents.unrecorded = _
    rcases h.leaving.contents with hsame | ⟨record, hrecord⟩
    · rw [hsame]
      rfl
    · rw [hrecord]
      exact unrecorded_setRecord _ _ _ _
  | condition id index span e s => exact .done (unrecorded_of_contents (contents_condition ..))
  | idle s h =>
    rw [h.visits_eq]
    exact .done (unrecorded_of_contents (h.kept setting s).2)
  | halted h first =>
    rw [h.visits, h.session]
    exact first hs
  | @continued p q r s n h first last =>
    rw [h.visits, h.session]
    exact (first hs).append (last (q.reachable_run setting hs))

theorem trail_command (setting : Setting) (c : Command) {s : Session} (hs : s.table.Reachable) :
    Trail setting s.table (visits setting c s) (runCommand setting c s).session.table :=
  Part.trail_run setting (.command none c) s hs

/-! ## Commands one after another -/

/-- Runs commands one after another, however each of them ends. -/
def runSeries (setting : Setting) : List Command → Session → Session
  | [], s => s
  | c :: rest, s => runSeries setting rest (runCommand setting c s).session

/-- The commands that are visited when commands are run one after another. -/
def seriesVisits (setting : Setting) : List Command → Session → List Visit
  | [], _ => []
  | c :: rest, s => visits setting c s ++ seriesVisits setting rest (runCommand setting c s).session

theorem trail_series (setting : Setting) (cs : List Command) (hs : s.table.Reachable) :
    Trail setting s.table (seriesVisits setting cs s) (runSeries setting cs s).table := by
  induction cs generalizing s with
  | nil => exact .refl setting s.table
  | cons c rest ih =>
    exact (trail_command setting c hs).append (ih (closed_command setting c hs).reachable)

end DialogScript
