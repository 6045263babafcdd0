import DialogScript.Analysis.Run
import DialogScript.Proofs.Checking.Action

/-!
A command in which no other is run is run as a whole or not at all: unless it passes, the table is
afterwards exactly what it was, and so is where the run stands. Leaving the command replays its
journal, which notes all that its check has written, also where memory runs out in the middle.
-/

namespace DialogScript

namespace Session

theorem takenBack_after {s : Session} (h : s.table.Reachable) (kind : CommandKind)
    (span : Option Span) (ws : List SymbolTable.Write) (ds : List Diagnostic) :
    ((s.entered kind span).after ws ds).takenBack =
      { s with diagnostics := s.diagnostics ++ ds } := by
  have ht : (s.table.openJournal.applyAll ws).rollback = s.table :=
    SymbolTable.rollback_applyAll h ws
  simp [entered, after, takenBack, withTable, left, ht]

/-- However a run ends but by passing, what it wrote is taken back. -/
theorem finish_of_setback (s : Session) (kind : CommandKind) (c : Command) (b : Setback) :
    (s.finish kind c (.error b)).ending ≠ .ok true ∧
      (s.finish kind c (.error b)).session.table = s.takenBack.table ∧
      (s.finish kind c (.error b)).session.around = s.takenBack.around := by
  rcases b with e | ⟨m | b⟩ <;> refine ⟨nofun, rfl, rfl⟩

/-! ## Running out of memory -/

theorem taking_eq (p : Place) (s : Session) (step : Check.Step) :
    ∃ ws ds, (∀ d ∈ ds, Check.Found s.current d) ∧ s.taking p step = s.after ws ds := by
  have tame : Check.Tame Check.anyWrite step.take := by
    cases step with
    | write w => exact .write trivial
    | remark r => exact .remark r
    | typeOf e => exact (Check.typeOf_tame e).map _
  obtain ⟨ws, -, hws⟩ := tame p s
  obtain ⟨-, ds, hs, hds⟩ := hws s (.refl s)
  exact ⟨ws, ds, hds, hs⟩

/-- The steps that a check takes make some writes and find some diagnostics. -/
theorem foldl_taking (p : Place) (s : Session) (steps : List Check.Step) :
    ∃ ws ds, (∀ d ∈ ds, Check.Found s.current d) ∧
      steps.foldl (taking p) s = s.after ws ds := by
  induction steps generalizing s with
  | nil => exact ⟨[], [], fun _ hd => absurd hd List.not_mem_nil, s.after_nil.symm⟩
  | cons step rest ih =>
    obtain ⟨ws, ds, hds, hstep⟩ := taking_eq p s step
    obtain ⟨vs, es, hes, hrest⟩ := ih (s.taking p step)
    rw [hstep] at hes hrest
    refine ⟨ws ++ vs, ds ++ es, fun d hd => (List.mem_append.1 hd).elim (hds d) (hes d), ?_⟩
    rw [List.foldl_cons, hstep, hrest, after_after]

/-- A command that runs out of memory is ended after some writes and some diagnostics. -/
theorem runOut_eq (setting : Setting) (kind : CommandKind) (c : Command) (s : Session) :
    ∃ ws ds, (∀ d ∈ ds, Check.Found (some ⟨kind, c.span⟩) d) ∧
      s.runOut setting kind c =
        ((s.entered kind c.span).after ws ds).finish kind c
          (.error (.noMemory kind c.span)) := by
  -- However many steps are taken first, they come down to writes and diagnostics.
  obtain ⟨ws, ds, hds, hreached⟩ := foldl_taking ⟨kind, setting.host⟩ (s.entered kind c.span)
    (setting.progress c (s.entered kind c.span))
  refine ⟨ws, ds, hds, ?_⟩
  rw [← hreached]
  rfl

end Session

section

variable {setting : Setting} {s : Session}

/-- The run of an action makes some writes in a journal of its own, and finds some diagnostics
before it ends. -/
theorem runAction_eq (status : Status) {a : Action} {kind : CommandKind} (hk : a.kind? = some kind)
    (hx : setting.exhausted ≠ some kind) (s : Session) :
    ∃ ws ds, (∀ d ∈ ds, Check.Found (some ⟨kind, status.span⟩) d) ∧
      runAction setting status a s =
        ((s.entered kind status.span).after ws ds).finish kind (.action status a)
          ((Check.action a ⟨kind, setting.host⟩ (s.entered kind status.span)).1.mapError
            Setback.ofFailure) := by
  obtain ⟨ws, -, hws⟩ := Check.action_tame a ⟨kind, setting.host⟩ (s.entered kind status.span)
  obtain ⟨-, ds, hs, hds⟩ := hws _ (.refl _)
  refine ⟨ws, ds, hds, ?_⟩
  rw [← hs]
  simp only [runAction, hk, hx, if_false]

/-- The check of a condition makes no writes. It finds some diagnostics, and adds an error if there
is a problem. -/
theorem runCondition_eq (setting : Setting) (index : Nat) (e : Expr) (s : Session) :
    ∃ ds, (∀ d ∈ ds, Check.Found s.current d) ∧
      runCondition setting index e s =
        match (Check.condition index e ⟨.conditional, setting.host⟩ s).1 with
        | .ok () => (.ok true, s.after [] ds)
        | .error (.error err) => (.ok false, (s.after [] ds).note (Diagnostic.ofError err))
        | .error (.broken b) => (.error (.broken b), s.after [] ds) := by
  obtain ⟨ws, hn, hws⟩ := Check.condition_tame index e ⟨.conditional, setting.host⟩ s
  obtain ⟨-, ds, hs, hds⟩ := hws s (.refl s)
  obtain rfl : ws = [] := List.eq_nil_iff_forall_not_mem.2 hn
  refine ⟨ds, hds, ?_⟩
  unfold runCondition
  cases hc : Check.condition index e ⟨.conditional, setting.host⟩ s with
  | mk r u =>
    obtain rfl : u = s.after [] ds := by rw [← hs, hc]
    rcases r with (err | b) | u <;> rfl

/-! ## Commands in which no other is run -/

/-- No command is run in a command: it is no conditional, or one that finds no memory or has no
branch. -/
def Command.RunsAlone (setting : Setting) : Command → Prop
  | .conditional _ branches _ _ => setting.exhausted = some .conditional ∨ branches = []
  | _ => True

theorem Command.runsAlone_of_kind {c : Command} (h : c.kind? ≠ some .conditional) :
    c.RunsAlone setting := by
  cases c with
  | conditional status branches otherwise id => exact absurd rfl h
  | _ => trivial

/-- How a command in which no other is run can end, unless it has no kind. -/
inductive Concludes (setting : Setting) (kind : CommandKind) (span : Option Span) :
    Except Setback Unit → Prop where
  | passed : Concludes setting kind span (.ok ())
  | failed (e : AnalysisError) : Concludes setting kind span (.error (.problem e))
  | broken (b : Breakdown) : Concludes setting kind span (.error (.stop (.broken b)))
  | noMemory (hx : setting.exhausted = some kind) :
      Concludes setting kind span (.error (.noMemory kind span))

/-- The run of a command in which no other is run. -/
inductive RunAlone (setting : Setting) (c : Command) (s : Session) : Ran Command Bool → Prop where
  | kindless (hk : c.kind? = none) :
      RunAlone setting c s ⟨c, .error (.broken (.noMember "SelectCommand" "kind")), s⟩
  | concluded {kind : CommandKind} (ws : List SymbolTable.Write) {ds : List Diagnostic}
      {r : Except Setback Unit} (hk : c.kind? = some kind)
      (hds : ∀ d ∈ ds, Check.Found (some ⟨kind, c.span⟩) d) (hr : Concludes setting kind c.span r) :
      RunAlone setting c s (((s.entered kind c.span).after ws ds).finish kind c r)

theorem RunAlone.runOut {c : Command} {kind : CommandKind} (hx : setting.exhausted = some kind)
    (hk : c.kind? = some kind) : RunAlone setting c s (s.runOut setting kind c) := by
  obtain ⟨ws, ds, hds, hr⟩ := s.runOut_eq setting kind c
  rw [hr]
  exact .concluded ws hk hds (.noMemory hx)

theorem runAction_alone (status : Status) (a : Action) :
    RunAlone setting (.action status a) s (runAction setting status a s) := by
  cases hk : a.kind? with
  | none =>
    simp only [runAction, hk]
    exact .kindless hk
  | some kind =>
    by_cases hx : setting.exhausted = some kind
    · simp only [runAction, hk, hx, if_true]
      exact .runOut hx hk
    · obtain ⟨ws, ds, hds, hr⟩ := runAction_eq status hk hx s
      rw [hr]
      refine .concluded (c := .action status a) ws hk hds ?_
      rcases (Check.action a ⟨kind, setting.host⟩ (s.entered kind status.span)).1 with (e | b) | ok
      · exact .failed e
      · exact .broken b
      · exact .passed

theorem runLoop_alone {kind : CommandKind} {c : Command} (hk : c.kind? = some kind) :
    RunAlone setting c s (runLoop setting kind c s) := by
  unfold runLoop
  split
  · exact .runOut ‹_› hk
  · refine .concluded [] hk (fun d hd => ?_) .passed
    rw [List.mem_singleton.1 hd]
    exact .remark (.commandSkipped kind)

theorem runCommand_alone {c : Command} (h : c.RunsAlone setting) (s : Session) :
    RunAlone setting c s (runCommand setting c s) := by
  cases c with
  | action status a =>
    rw [runCommand]
    exact runAction_alone status a
  | forLoop status v option args body =>
    rw [runCommand]
    exact runLoop_alone rfl
  | whileLoop status condition body =>
    rw [runCommand]
    exact runLoop_alone rfl
  | conditional status branches otherwise id =>
    rw [runCommand]
    by_cases hx : setting.exhausted = some .conditional
    · rw [if_pos hx]
      exact .runOut hx rfl
    · obtain rfl : branches = [] := h.resolve_left hx
      rw [if_neg hx, if_pos List.isEmpty_nil]
      -- Nothing is written and nothing found before it is refused.
      have refused : RunAlone setting (.conditional status [] otherwise id) s
          (((s.entered .conditional status.span).after [] []).finish .conditional
            (.conditional status [] otherwise id)
            (.error (.problem ⟨.missingField .conditional "IF branch", none⟩))) :=
        .concluded [] rfl (fun _ hd => absurd hd List.not_mem_nil) (.failed _)
      rwa [Session.after_nil] at refused

/-- A command in which no other is run leaves the table as it was unless it passes, and leaves the
run where it stood. -/
theorem RunAlone.atomic {c : Command} {ran : Ran Command Bool} (h : RunAlone setting c s ran)
    (hs : s.table.Reachable) (hf : ran.ending ≠ .ok true) :
    ran.session.table = s.table ∧ ran.session.around = s.around := by
  cases h with
  | kindless hk => exact ⟨rfl, rfl⟩
  | @concluded kind ws ds r hk hds hr =>
    cases r with
    | ok u => exact absurd rfl hf
    | error b =>
      -- The journal notes whatever the check has written, so where it ends does not matter.
      obtain ⟨-, ht, ha⟩ := Session.finish_of_setback
        ((s.entered kind c.span).after ws ds) kind c b
      rw [ht, ha, Session.takenBack_after hs]
      exact ⟨rfl, rfl⟩

/-- A command that is not a conditional and does not pass leaves the table as it was, with
everything in it and with its journals, and leaves the run where it stood. So it does wherever in
its check it is ended: after any writes at all, and by any setback. -/
theorem runCommand_atomic (setting : Setting) {c : Command} {s : Session}
    (hc : c.kind? ≠ some .conditional) (hs : s.table.Reachable) :
    ((runCommand setting c s).ending ≠ .ok true →
      (runCommand setting c s).session.table = s.table ∧
        (runCommand setting c s).session.around = s.around) ∧
    ∀ kind ws ds b, c.kind? = some kind →
      (((s.entered kind c.span).after ws ds).finish kind c (.error b)).session.table = s.table ∧
        (((s.entered kind c.span).after ws ds).finish kind c (.error b)).session.around =
          s.around := by
  refine ⟨(runCommand_alone (Command.runsAlone_of_kind hc) s).atomic hs, fun kind ws ds b _ => ?_⟩
  obtain ⟨-, ht, ha⟩ := Session.finish_of_setback ((s.entered kind c.span).after ws ds) kind c b
  rw [ht, ha, Session.takenBack_after hs]
  exact ⟨rfl, rfl⟩

/-- A checkbox with an image but no tooltip, which is refused after the checkbox has been bound. -/
def checkboxWithoutTooltip : Command :=
  .action {} (.checkbox
    { name := "P", subtype := .int, display := { image := .literal none (.string "p.gif") } })

/-- A session in which one name is bound. -/
def boundOnce : Session := { table := SymbolTable.apply {} (.declare "Q" (.integer 1)) }

theorem runCommand_atomic_checkbox :
    (runCommand {} checkboxWithoutTooltip boundOnce).ending = .ok false ∧
      (runCommand {} checkboxWithoutTooltip boundOnce).session.table = boundOnce.table ∧
      (((boundOnce.entered .checkboxParam none).after [.declare "P" (.integer 2)] []).finish
        .checkboxParam checkboxWithoutTooltip
        (.error (.noMemory .checkboxParam none))).session.table = boundOnce.table := by
  have hf : (runCommand {} checkboxWithoutTooltip boundOnce).ending = .ok false := rfl
  have hs : boundOnce.table.Reachable := .apply .empty (.declare "Q" (.integer 1))
  obtain ⟨hwhole, hpart⟩ := runCommand_atomic {} (c := checkboxWithoutTooltip) (by decide) hs
  refine ⟨hf, (hwhole ?_).1, (hpart .checkboxParam [.declare "P" (.integer 2)] [] _ rfl).1⟩
  rw [hf]
  exact nofun

end

end DialogScript
