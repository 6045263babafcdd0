import DialogScript.Proofs.Running.Part

/-!
What every run leaves as it was: the commands and the conditional around it, the branch too if it is
of whole commands, and the journals that were open. A conditional is left with an empty journal,
since each command in it has closed the journal that it wrote to; so nothing is taken back then.
-/

namespace DialogScript

variable {setting : Setting} {s u v : Session} {p q r : Part} {n : Nat}

/-! ## Leaving a command -/

namespace Session

theorem around_finish (u : Session) (kind : CommandKind) (c : Command)
    (e : Except Setback Unit) :
    (u.finish kind c e).session.around =
      { u.around with commands := u.around.commands.tail } := by
  rcases e with (e | ⟨m | b⟩) | ok <;> rfl

/-- A command that is left after some writes in a journal of its own. -/
theorem finish_after (hs : s.table.Reachable) (kind : CommandKind) (c : Command)
    (span : Option Span) (ws : List SymbolTable.Write) (ds : List Diagnostic)
    (e : Except Setback Unit) :
    (((s.entered kind span).after ws ds).finish kind c e).session.table.journals =
        s.table.journals ∧
      (((s.entered kind span).after ws ds).finish kind c e).session.table.Reachable := by
  have hopen : s.table.openJournal.Reachable := hs.openJournal
  cases e with
  | ok done =>
    obtain ⟨new, hj, -⟩ := hopen.noted_applyAll ws [] s.table.journals rfl
    show (s.table.openJournal.applyAll ws).commit.journals = _ ∧ _
    exact ⟨congrArg List.tail hj, (hopen.applyAll ws).commit⟩
  | error b =>
    obtain ⟨-, ht, -⟩ := finish_of_setback ((s.entered kind span).after ws ds) kind c b
    rw [ht, takenBack_after hs]
    exact ⟨rfl, hs⟩

/-- A command that is left with an empty journal: nothing is taken back. -/
theorem finish_empty {js : List (List Undo)} (hj : u.table.journals = [] :: js)
    (kind : CommandKind) (c : Command) (e : Except Setback Unit) :
    (u.finish kind c e).session.table = u.table.commit := by
  have hroll : u.table.rollback = u.table.commit := by
    unfold SymbolTable.rollback SymbolTable.commit
    rw [hj]
    rfl
  rcases e with (e | ⟨m | b⟩) | ok
  · exact hroll
  · exact hroll
  · exact hroll
  · rfl

end Session

/-! ## The record of a conditional -/

section

variable (id : Int) (record : Value) {t : SymbolTable}

theorem reachable_recordConditional (h : t.Reachable) :
    (recordConditional id record t).Reachable :=
  (h.openJournal.apply (.setRecord .conditionals id record)).commit

theorem contents_recordConditional (t : SymbolTable) :
    (recordConditional id record t).contents =
      t.contents.setRecord .conditionals id record := by
  show (t.openJournal.apply (.setRecord .conditionals id record)).contents = _
  rw [SymbolTable.contents_apply]
  rfl

theorem journals_recordConditional (t : SymbolTable) :
    (recordConditional id record t).journals = t.journals := by
  unfold recordConditional SymbolTable.setRecord SymbolTable.commit
  dsimp only
  rw [SymbolTable.journals_log]
  rfl

end

namespace Leaving

variable {id : Int} {span : Option Span} {bs : List Branch} {cs : List Command}
  {ending : Except Stop Nat} {e : Except Setback Unit} (h : Leaving id span bs cs ending u v e)

include h

theorem around : v.around = u.around := by
  cases h <;> rfl

theorem diagnostics : v.diagnostics = u.diagnostics := by
  cases h <;> rfl

theorem journals : v.table.journals = u.table.journals := by
  cases h with
  | stopped => rfl
  | unwritable => rfl
  | @recorded record => exact journals_recordConditional id record u.table

theorem reachable (hu : u.table.Reachable) : v.table.Reachable := by
  cases h with
  | stopped => exact hu
  | unwritable => exact hu
  | @recorded record => exact reachable_recordConditional id record hu

/-- Nothing but the record is written when a conditional is left. -/
theorem contents : v.table.contents = u.table.contents ∨
    ∃ record, v.table.contents = u.table.contents.setRecord .conditionals id record := by
  cases h with
  | stopped => exact .inl rfl
  | unwritable => exact .inl rfl
  | @recorded record => exact .inr ⟨record, contents_recordConditional id record u.table⟩

end Leaving

/-! ## Runs -/

namespace Part

/-- Whether a part is one or more whole commands. -/
def isWhole : Part → Bool
  | command .. | commands .. => true
  | _ => false

/-- What the run of a part, from one session to another, leaves as it was. -/
structure Steady (p : Part) (s u : Session) : Prop where
  commands : u.around.commands = s.around.commands
  conditional : u.around.conditional = s.around.conditional
  branch : p.isWhole = true → u.around.branch = s.around.branch
  table : s.table.Reachable → u.table.journals = s.table.journals ∧ u.table.Reachable

theorem Steady.of_around (haround : u.around = s.around)
    (ht : s.table.Reachable → u.table.journals = s.table.journals ∧ u.table.Reachable) :
    p.Steady s u where
  commands := by rw [haround]
  conditional := by rw [haround]
  branch _ := by rw [haround]
  table := ht

/-- Going on to a branch changes nothing else. -/
theorem Steady.inBranch (h : p.Steady s u) (hp : p.isWhole = false) (index : Int) :
    p.Steady s (u.inBranch index) where
  commands := h.commands
  conditional := h.conditional
  branch hw := absurd hw (by simp [hp])
  table := h.table

theorem Steady.around (h : p.Steady s u) (hp : p.isWhole = true) : u.around = s.around := by
  obtain ⟨hcommands, hconditional, hbranch, -⟩ := h
  replace hbranch := hbranch hp
  cases hs : s.around
  cases hu : u.around
  rw [hs, hu] at hcommands hconditional hbranch
  cases hcommands
  cases hconditional
  cases hbranch
  rfl

theorem Splits.isWhole (h : Splits p q r) (hp : p.isWhole = true) :
    q.isWhole = true ∧ r.isWhole = true := by
  cases h with
  | commands => exact ⟨rfl, rfl⟩
  | _ => cases hp

theorem steady_alone {around : Option (Int × Int)} {c : Command} {ran : Ran Command Bool}
    (h : RunAlone setting c s ran) : (command around c).Steady s ran.session := by
  cases h with
  | kindless hk => exact .of_around rfl fun hs => ⟨rfl, hs⟩
  | @concluded kind ws ds e hk hds he =>
    exact .of_around (Session.around_finish _ kind c e)
      fun hs => s.finish_after hs kind c c.span ws ds e

section

variable {status : Status} {branches : List Branch} {otherwise : List Command} {id : Int}
  {bs : List Branch} {cs : List Command} {e : Except Setback Unit}
  (h : Conducted setting status branches otherwise id s bs cs v e)

include h

/-- What is inside a conditional works in the journal of the conditional. If it leaves that as it
was, the journal is empty when the conditional is left. -/
theorem left_of_steady (hs : s.table.Reachable)
    (inner : (inside id branches otherwise).Steady (s.inside status.span id)
      ((inside id branches otherwise).run setting (s.inside status.span id)).session) :
    v.table.journals = [] :: s.table.journals ∧ v.table.Reachable ∧
      (runCommand setting (.conditional status branches otherwise id) s).session.table =
        v.table.commit := by
  obtain ⟨hj, hreachable⟩ := inner.table hs.openJournal
  rw [← h.leaving.journals] at hj
  refine ⟨hj, h.leaving.reachable hreachable, ?_⟩
  rw [h.run]
  exact Session.finish_empty (u := v.outOf (s.entered .conditional status.span)) hj _ _ _

end

theorem steady (setting : Setting) (p : Part) (s : Session) :
    p.Steady s (p.run setting s).session := by
  induction p, s using run_induction setting with
  | alone around s halone => exact steady_alone (runCommand_alone halone s)
  | @conditional around status branches otherwise id s bs cs v e h inner =>
    refine .of_around ?_ fun hs => ?_
    · have hcommands := inner.commands
      rw [← h.leaving.around] at hcommands
      show (runCommand setting _ s).session.around = _
      rw [h.run, Session.around_finish]
      show Around.mk v.around.commands.tail _ _ = _
      rw [hcommands]
      rfl
    · obtain ⟨hj, hreachable, htable⟩ := left_of_steady h hs inner
      show (runCommand setting _ s).session.table.journals = _ ∧
        (runCommand setting _ s).session.table.Reachable
      rw [htable]
      exact ⟨congrArg List.tail hj, hreachable.commit⟩
  | condition id index span e s =>
    have checked (ds : List Diagnostic) : (condition id index span e).Steady s (s.after [] ds) :=
      .of_around rfl fun ht => ⟨rfl, ht⟩
    obtain ⟨ds, hs | hs⟩ := session_condition id span setting index e s
    · rw [hs]
      exact checked ds
    · rw [hs]
      exact (checked ds).inBranch rfl index
  | @idle p s h =>
    have same : p.Steady s s := .of_around rfl fun ht => ⟨rfl, ht⟩
    cases h with
    | last id => exact same.inBranch rfl (-1)
    | _ => exact same
  | @halted p q r s stop h first =>
    rw [h.session]
    exact { first with branch := fun hp => first.branch (h.splits.isWhole hp).1 }
  | @continued p q r s n h first last =>
    rw [h.session]
    refine ⟨last.commands.trans first.commands, last.conditional.trans first.conditional,
      fun hp => ?_, fun hs => ?_⟩
    · obtain ⟨hq, hr⟩ := h.splits.isWhole hp
      exact (last.branch hr).trans (first.branch hq)
    · obtain ⟨hj, ht⟩ := first.table hs
      obtain ⟨hj', ht'⟩ := last.table ht
      exact ⟨hj'.trans hj, ht'⟩

/-- The session in which a conditional is left, before its journal is closed. -/
theorem left_conducted {status : Status} {branches : List Branch} {otherwise : List Command}
    {id : Int} {bs : List Branch} {cs : List Command} {e : Except Setback Unit}
    (h : Conducted setting status branches otherwise id s bs cs v e) (hs : s.table.Reachable) :
    v.table.journals = [] :: s.table.journals ∧ v.table.Reachable ∧
      (runCommand setting (.conditional status branches otherwise id) s).session.table =
        v.table.commit :=
  left_of_steady h hs ((inside id branches otherwise).steady setting (s.inside status.span id))

theorem contents_conducted {status : Status} {branches : List Branch} {otherwise : List Command}
    {id : Int} {bs : List Branch} {cs : List Command} {e : Except Setback Unit}
    (h : Conducted setting status branches otherwise id s bs cs v e) (hs : s.table.Reachable) :
    (runCommand setting (.conditional status branches otherwise id) s).session.table.contents =
      v.table.contents := by
  rw [(left_conducted h hs).2.2]
  rfl

theorem reachable_run (setting : Setting) (p : Part) (hs : s.table.Reachable) :
    (p.run setting s).session.table.Reachable := ((p.steady setting s).table hs).2

/-! ## Where parts stand -/

theorem Splits.stands (h : Splits p q r) (hp : p.Stands s) : q.Stands s := by
  cases h <;> exact hp

theorem Continued.stands (h : Continued setting p q r s n) (hp : p.Stands s) :
    r.Stands (q.run setting s).session := by
  have hsteady := q.steady setting s
  cases h.splits with
  | commands around c rest =>
    exact ⟨hsteady.conditional.trans hp.1, (hsteady.branch rfl).trans hp.2⟩
  | branches id index b rest => exact hsteady.conditional.trans hp
  | branch id index span e cs =>
    refine ⟨hsteady.conditional.trans hp, ?_⟩
    -- The commands of a branch are run only behind a check that has gone into it.
    have hfirst := h.first
    cases hc : runCondition setting index e s with
    | mk result u =>
    cases result with
    | error stop =>
      rw [run_condition_stop id span hc] at hfirst
      cases hfirst
    | ok held =>
      rw [run_condition_ok id span hc]
      rfl
  | otherwise id cs => exact ⟨hp, rfl⟩
  | inside id bs cs => exact hsteady.conditional.trans hp

end Part

/-! ## Commands -/

/-- What the run of a command, from one session to another, leaves as it was. -/
structure Closed (s u : Session) : Prop where
  around : u.around = s.around
  journals : u.table.journals = s.table.journals
  reachable : u.table.Reachable

/-- A command in which no other is run leaves the table as it was, unless it is an action that
passes. -/
theorem table_alone {c : Command} (h : c.RunsAlone setting) (hs : s.table.Reachable) :
    (runCommand setting c s).session.table = s.table ∨
      ∃ status a, c = .action status a ∧ (runAction setting status a s).ending = .ok true := by
  by_cases he : (runCommand setting c s).ending = .ok true
  · -- A loop is passed over, so it passes without a write.
    have hloop {kind : CommandKind} {c : Command}
        (he : (runLoop setting kind c s).ending = .ok true) :
        (runLoop setting kind c s).session.table = s.table := by
      unfold runLoop at he ⊢
      split at he
      · cases he
      · next hx => rw [if_neg hx]; rfl
    cases c with
    | action status a =>
      rw [runCommand] at he
      exact .inr ⟨status, a, rfl, he⟩
    | forLoop status v option args body =>
      rw [runCommand] at he ⊢
      exact .inl (hloop he)
    | whileLoop status condition body =>
      rw [runCommand] at he ⊢
      exact .inl (hloop he)
    | conditional status branches otherwise id =>
      cases branches with
      | nil => cases (runCommand_noBranch he).1
      | cons b rest => exact absurd h (runsAlone_of_branch he)
  · exact .inl ((runCommand_alone h s).atomic hs he).1

theorem closed_command (setting : Setting) (c : Command) (hs : s.table.Reachable) :
    Closed s (runCommand setting c s).session := by
  have hsteady := (Part.command none c).steady setting s
  obtain ⟨hjournals, hreachable⟩ := hsteady.table hs
  exact ⟨hsteady.around rfl, hjournals, hreachable⟩

end DialogScript
