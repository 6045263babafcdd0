import DialogScript.Proofs.Running.Part

/-!
The errors that a run reports, against the flags that it clears and the conditions that fail. A
shortage of memory reports its errors only when it leaves the outermost command; until then they
are owed.
-/

namespace DialogScript

/-! ## Errors of a session -/

namespace Session

/-- The number of errors that have been reported. -/
def errors (s : Session) : Nat := Diagnostic.errorCount s.diagnostics

theorem errors_after (s : Session) (ws : List SymbolTable.Write) {running : Option Running}
    {ds : List Diagnostic} (h : ∀ d ∈ ds, Check.Found running d) :
    (s.after ws ds).errors = s.errors := by
  have hnone := Diagnostic.errorCount_eq_zero.2 fun d hd => (h d hd).severity
  unfold errors after
  dsimp only
  rw [Diagnostic.errorCount_append, hnone, Nat.add_zero]

theorem errors_add {d : Diagnostic} (h : d.severity = .error) (s : Session) :
    (s.add d).errors = s.errors + 1 := by
  unfold errors add
  dsimp only
  rw [Diagnostic.errorCount_append]
  simp [Diagnostic.errorCount, Diagnostic.ofSeverity, h]

theorem errors_note (s : Session) (e : AnalysisError) :
    (s.note (Diagnostic.ofError e)).errors = s.errors + 1 := errors_add rfl s

theorem errors_report (s : Session) (e : AnalysisError) (kind : CommandKind)
    (span : Option Span) : (s.report e kind span).errors = s.errors + 1 := errors_add rfl s

end Session

/-! ## Marked commands -/

namespace Command

theorem faults_conditional (status : Status) (branches : List Branch) (otherwise : List Command)
    (id : Int) :
    (conditional status branches otherwise id).faults =
      failureCount status.valid + branchFaults branches + allFaults otherwise := by
  unfold faults flags branchFaults allFaults failureCount
  rw [List.cons_append, List.count_cons, List.count_append]
  cases status.valid
  · simp
    omega
  · simp

theorem allFaults_cons (c : Command) (rest : List Command) :
    allFaults (c :: rest) = c.faults + allFaults rest := by
  unfold allFaults faults
  rw [allFlags, List.count_append]

theorem branchFaults_cons (span : Option Span) (condition : Expr) (commands : List Command)
    (rest : List Branch) :
    branchFaults (.mk span condition commands :: rest) =
      allFaults commands + branchFaults rest := by
  unfold branchFaults allFaults
  rw [branchFlags, List.count_append]

theorem faults_markInvalid {c : Command} (h : c.valid = true) :
    c.markInvalid.faults = c.faults + 1 := by
  unfold valid status at h
  cases c <;> dsimp only at h <;> simp [faults, markInvalid, flags, h]

theorem faults_pos {c : Command} (h : c.valid = false) : 0 < c.faults := by
  unfold valid status at h
  cases c <;> dsimp only at h <;> simp [faults, flags, h]

theorem valid_of_faults {c : Command} (h : c.faults = 0) : c.valid = true := by
  cases hv : c.valid with
  | true => rfl
  | false =>
    have hpos := faults_pos hv
    omega

end Command

/-! ## Leaving a command -/

/-- The errors that a stop has still to report. After a breakdown nothing is reported. -/
def Stop.owed : Stop → Option Nat
  | outOfMemory m => some m.commands
  | broken _ => none

/-- The errors that are still to be reported after an ending. -/
def owed {β : Type} : Except Stop β → Option Nat
  | .ok _ => some 0
  | .error stop => stop.owed

/-- The errors that a setback owes, but for the one about the command that it ends. -/
def Setback.owed : Setback → Option Nat
  | problem _ => some 0
  | stop s => s.owed

theorem owed_map {β γ : Type} (f : β → γ) (r : Except Stop β) : owed (f <$> r) = owed r := by
  cases r <;> rfl

/-- A command that does not pass is marked, and one error is reported or owed for it, unless
something breaks down. -/
theorem owed_finish (u : Session) (kind : CommandKind) {c : Command} (hc : c.valid = true)
    {b : Setback} {n : Nat} (h : owed (u.finish kind c (.error b)).ending = some n) :
    ∃ m, b.owed = some m ∧
      (u.finish kind c (.error b)).session.errors + n = u.errors + m + 1 ∧
      (u.finish kind c (.error b)).tree.faults = c.faults + 1 := by
  have hf := Command.faults_markInvalid hc
  rcases b with e | ⟨m | d⟩
  · cases h
    exact ⟨0, rfl, Session.errors_report _ _ _ _, hf⟩
  · cases h
    exact ⟨m.commands, rfl, rfl, hf⟩
  · cases h

/-! ## The balance of a run -/

/-- Each error that a run has reported, or owes, stands for a command that it marked or for a
condition that failed. -/
def Balanced {α β : Type} (s : Session) (ran : Ran α β) (faults failed : Nat) : Prop :=
  ∀ n, owed ran.ending = some n → ran.session.errors + n = s.errors + faults + failed

variable {setting : Setting} {s u : Session}

section

variable {kind : CommandKind} {c : Command} {failed : Nat}

/-- A command that passes keeps the balance of what was run in it. -/
theorem balanced_passed (h : u.errors = s.errors + c.faults + failed) :
    Balanced s (u.finish kind c (.ok ())) (u.finish kind c (.ok ())).tree.faults failed := by
  intro n hn
  cases hn
  exact h

/-- A setback keeps the balance of what was run in the command: the error about the command is
reported, or owed, as the command is marked. -/
theorem balanced_setback {b : Setback} (hc : c.valid = true)
    (h : ∀ n, b.owed = some n → u.errors + n = s.errors + c.faults + failed) :
    Balanced s (u.finish kind c (.error b)) (u.finish kind c (.error b)).tree.faults failed := by
  intro n hn
  obtain ⟨m, hm, he, hf⟩ := owed_finish u kind hc hn
  have hu := h m hm
  omega

/-- A setback before anything was run in the command. -/
theorem balanced_refusal {b : Setback} (hc : c.faults = 0) (hu : u.errors = s.errors)
    (hb : ∀ n, b.owed = some n → n = 0) :
    Balanced s (u.finish kind c (.error b)) (u.finish kind c (.error b)).tree.faults 0 := by
  refine balanced_setback (Command.valid_of_faults hc) fun n hn => ?_
  have hn0 := hb n hn
  omega

theorem balanced_conditionalEnding (k : Nat) (span : Option Span) (hc : c.valid = true)
    (h : u.errors = s.errors + c.faults + failed) :
    Balanced s (u.finish kind c (conditionalEnding k span))
      (u.finish kind c (conditionalEnding k span)).tree.faults failed := by
  unfold conditionalEnding
  split
  · exact balanced_passed h
  · refine balanced_setback hc fun n hn => ?_
    cases hn
    exact h

theorem balanced_alone {ran : Ran Command Bool} (h : RunAlone setting c s ran) (hc : c.faults = 0) :
    Balanced s ran ran.tree.faults 0 := by
  cases h with
  | kindless hk => exact fun n hn => by cases hn
  | @concluded kind ws ds r hk hds hr =>
    have hu : ((s.entered kind c.span).after ws ds).errors = s.errors :=
      Session.errors_after _ ws hds
    cases hr with
    | passed => exact balanced_passed (by omega)
    | failed e => exact balanced_refusal hc hu fun n hn => (Option.some.inj hn).symm
    | broken b => exact balanced_refusal hc hu fun n hn => by cases hn
    | noMemory hx => exact balanced_refusal hc hu fun n hn => (Option.some.inj hn).symm

/-- A conditional is left with the balance of what was run in it. What failed there makes it fail
once, whatever the number. -/
theorem Leaving.balanced {id : Int} {span : Option Span} {bs : List Branch} {cs : List Command}
    {ending : Except Stop Nat} {v : Session} {r : Except Setback Unit}
    (h : Leaving id span bs cs ending u v r) (kind : CommandKind) (before : Session)
    (hc : c.valid = true)
    (hu : ∀ n, owed ending = some n → u.errors + n = s.errors + c.faults + failed) :
    Balanced s ((v.outOf before).finish kind c r) ((v.outOf before).finish kind c r).tree.faults
      failed := by
  cases h with
  | stopped stop => exact balanced_setback hc hu
  | unwritable h n => exact balanced_setback hc fun n hn => by cases hn
  | recorded h n => exact balanced_conditionalEnding n span hc (hu 0 rfl)

end

/-- A condition that is checked reports an error exactly if it fails. -/
theorem errors_condition {index : Nat} {e : Expr} {held : Bool}
    (h : runCondition setting index e s = (.ok held, u)) :
    u.errors = s.errors + failureCount held := by
  obtain ⟨ds, hds, hr⟩ := runCondition_eq setting index e s
  rw [hr] at h
  have he := Session.errors_after s [] hds
  split at h
  · cases h
    exact he
  · cases h
    rw [Session.errors_note, he]
    rfl
  · cases h

theorem failedConditions_append (vs ws : List Visit) :
    failedConditions setting (vs ++ ws) =
      failedConditions setting vs + failedConditions setting ws := by
  simp [failedConditions]

theorem failedConditions_cons (v : Visit) (vs : List Visit) :
    failedConditions setting (v :: vs) =
      (v.held setting).count false + failedConditions setting vs := by
  simp [failedConditions]

/-! ## Runs -/

namespace Part

/-- The number of commands marked as invalid in a part. -/
def faults : Part → Nat
  | command _ c => c.faults
  | commands _ cs | otherwise _ cs => Command.allFaults cs
  | branch _ _ b => Command.allFaults b.commands
  | branches _ _ bs => Command.branchFaults bs
  | inside _ bs cs => Command.branchFaults bs + Command.allFaults cs
  | condition .. | last _ => 0

/-- Where a conditional and what is in it are without a mark, what is inside it is. -/
theorem faults_inside {status : Status} {branches : List Branch} {otherwise : List Command}
    {id : Int} (h : (Command.conditional status branches otherwise id).faults = 0) :
    (inside id branches otherwise).faults = 0 := by
  rw [Command.faults_conditional] at h
  rw [faults]
  omega

theorem Splits.faults_eq {p q r : Part} (h : Splits p q r) : p.faults = q.faults + r.faults := by
  cases h with
  | commands around c rest => exact Command.allFaults_cons c rest
  | branches id index b rest =>
    cases b with
    | mk span e cs => exact Command.branchFaults_cons span e cs rest
  | branch id index span e cs => exact (Nat.zero_add _).symm
  | otherwise id cs => exact (Nat.zero_add _).symm
  | inside id bs cs => rfl

/-- The errors of a condition that is checked: one exactly if it fails. -/
theorem balanced_condition (id : Int) (index : Nat) (span : Option Span) (e : Expr) (s : Session) :
    Balanced s ((condition id index span e).run setting s)
      ((condition id index span e).run setting s).tree.faults
      (((condition id index span e).held setting s).count false) := by
  cases h : runCondition setting index e s with
  | mk result u =>
  cases result with
  | error stop =>
    -- The check of a condition stops only by breaking down.
    obtain ⟨b, rfl⟩ := runCondition_stop h
    rw [run_condition_stop id span h]
    exact fun n hn => by cases hn
  | ok held =>
    have hheld := errors_condition h
    rw [run_condition_ok id span h]
    intro n hn
    cases hn
    show u.errors + 0 = s.errors + 0 + (conditionHeld setting index e s).count false
    rw [conditionHeld, h]
    show u.errors + 0 = s.errors + 0 + [held].count false
    cases held <;> exact hheld

/-- The balance of a part that is one command. -/
theorem balanced_command (around : Option (Int × Int)) (c : Command) (s : Session) :
    Balanced s ((command around c).run setting s) ((command around c).run setting s).tree.faults
        (((command around c).held setting s).count false +
          failedConditions setting ((command around c).visits setting s)) ↔
      Balanced s (runCommand setting c s) (runCommand setting c s).tree.faults
        (failedConditions setting (DialogScript.visits setting c s)) := by
  show (∀ n, owed (failureCount <$> (runCommand setting c s).ending) = some n →
    (runCommand setting c s).session.errors + n =
      s.errors + (runCommand setting c s).tree.faults + (0 + failedConditions setting
        (DialogScript.visits setting c s))) ↔ _
  rw [owed_map, Nat.zero_add]
  rfl

theorem balanced_conditional {status : Status} {branches : List Branch} {otherwise : List Command}
    {id : Int} {bs : List Branch} {cs : List Command} {v : Session} {r : Except Setback Unit}
    (h : Conducted setting status branches otherwise id s bs cs v r)
    (hc : (Command.conditional status branches otherwise id).faults = 0)
    (inner : Balanced (s.inside status.span id)
      ((inside id branches otherwise).run setting (s.inside status.span id))
      ((inside id branches otherwise).run setting (s.inside status.span id)).tree.faults
      (((inside id branches otherwise).held setting (s.inside status.span id)).count false +
        failedConditions setting
          ((inside id branches otherwise).visits setting (s.inside status.span id)))) :
    Balanced s (runCommand setting (.conditional status branches otherwise id) s)
      (runCommand setting (.conditional status branches otherwise id) s).tree.faults
      (failedConditions setting
        (DialogScript.visits setting (.conditional status branches otherwise id) s)) := by
  have hvalid : status.valid = true := Command.valid_of_faults hc
  rw [Command.faults_conditional] at hc
  rw [h.tree] at inner
  rw [h.visits, failedConditions_cons, h.held, h.run]
  refine h.leaving.balanced .conditional _ hvalid fun n hn => ?_
  have hbalance := inner n hn
  rw [Command.faults_conditional]
  rw [faults] at hbalance
  have hs : (s.inside status.span id).errors = s.errors := rfl
  omega

theorem balanced_run (setting : Setting) (p : Part) (s : Session) (hp : p.faults = 0) :
    Balanced s (p.run setting s) (p.run setting s).tree.faults
      ((p.held setting s).count false + failedConditions setting (p.visits setting s)) := by
  induction p, s using run_induction setting with
  | @alone around c s h =>
    have hself : failedConditions setting (DialogScript.visits setting c s) = 0 := by
      rw [visits_alone h, failedConditions_cons, held_alone h]
      rfl
    rw [balanced_command, hself]
    exact balanced_alone (runCommand_alone h s) hp
  | conditional around h inner =>
    rw [balanced_command]
    exact balanced_conditional h hp (inner (faults_inside hp))
  | condition id index span e s => exact balanced_condition id index span e s
  | idle s h =>
    obtain ⟨u, hr, hu⟩ := h.run_eq setting s
    rw [hr, h.visits_eq, h.held_eq]
    intro n hn
    cases hn
    rw [hp]
    rcases hu with rfl | rfl <;> rfl
  | @halted p q r s stop h first =>
    -- The part that is not run is as it was, without a mark.
    have hparts := h.splits.faults_eq
    have hfirst := first (by omega)
    intro n hn
    rw [h.visits, h.held, h.tree.faults_eq, h.session]
    rw [h.ending] at hn
    have hbalance := hfirst n (by rw [h.first]; exact hn)
    omega
  | @continued p q r s n h first last =>
    -- The first part has come to its end, so it owes nothing.
    have hparts := h.splits.faults_eq
    have hfirst := first (by omega) 0 (by rw [h.first]; rfl)
    have hlast := last (by omega)
    intro k hk
    rw [h.ending, owed_map] at hk
    have hbalance := hlast k hk
    rw [h.visits, h.held, h.tree.faults_eq, h.session, failedConditions_append, List.count_append]
    omega

end Part

theorem balanced_command (setting : Setting) (c : Command) (s : Session) (hc : c.faults = 0) :
    Balanced s (runCommand setting c s) (runCommand setting c s).tree.faults
      (failedConditions setting (visits setting c s)) :=
  (Part.balanced_command none c s).1 (Part.balanced_run setting (.command none c) s hc)

end DialogScript
