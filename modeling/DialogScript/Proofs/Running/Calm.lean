import DialogScript.Proofs.Checking.Calm
import DialogScript.Proofs.Running.Completed
import DialogScript.Proofs.Running.Lasting
import DialogScript.Proofs.Running.Plain

/-!
What can break a run of intact commands down: a number that cannot be converted or written, or a
selection of no particular variant, which has no kind and so no check. The bindings stay homogeneous
through the run, and every action is run outside of conditionals or with the branch around it known.
-/

namespace DialogScript

/-- What may stop a run over some commands: a breakdown by arithmetic or at a command without a
kind, or a lack of memory, where the setting has one. -/
def Expected (setting : Setting) (cs : List Command) : Stop → Prop
  | .broken b =>
    b.isArithmetic = true ∨ b = .noMember "SelectCommand" "kind" ∧ ∃ c ∈ cs, c.kind? = none
  | .outOfMemory _ => setting.exhausted ≠ none

variable {setting : Setting} {s : Session} {stop : Stop}

theorem Expected.mono {cs ds : List Command} (h : Expected setting cs stop)
    (hs : ∀ c ∈ cs, c ∈ ds) : Expected setting ds stop := by
  cases stop with
  | outOfMemory m => exact h
  | broken b => exact h.imp_right fun ⟨hb, c, hc, hk⟩ => ⟨hb, c, hs c hc, hk⟩

/-! ## Commands in which no other is run -/

theorem stopped_runOut {kind : CommandKind} {c : Command} (hx : setting.exhausted = some kind)
    (h : (s.runOut setting kind c).ending = .error stop) (cs : List Command) :
    Expected setting cs stop := by
  cases h
  show setting.exhausted ≠ none
  rw [hx]
  exact Option.some_ne_none kind

theorem stopped_action {status : Status} {a : Action} (ha : Intact a.slots) (hs : s.Settled)
    (h : (runAction setting status a s).ending = .error stop) :
    Expected setting [.action status a] stop := by
  unfold runAction at h
  cases hk : a.kind? with
  | none =>
    rw [hk] at h
    cases h
    exact .inr ⟨rfl, _, List.mem_singleton_self _, hk⟩
  | some kind =>
    rw [hk] at h
    dsimp only at h
    by_cases hx : setting.exhausted = some kind
    · rw [if_pos hx] at h
      exact stopped_runOut hx h _
    · rw [if_neg hx] at h
      have hinside : (s.entered kind status.span).Settled := ⟨hs.homogeneous, hs.placed⟩
      obtain ⟨hbroken, -, -⟩ := Check.action_calm ha ⟨kind, setting.host⟩ _ hinside
      rcases hr : (Check.action a ⟨kind, setting.host⟩ (s.entered kind status.span)).1 with
        (e | b) | done
      all_goals
        rw [hr] at h
        cases h
      exact .inl (hbroken b hr)

/-- What an intact action binds is homogeneous. -/
theorem homogeneous_action {status : Status} {a : Action} (ha : Intact a.slots) (hs : s.Settled)
    (h : (runAction setting status a s).ending = .ok true) :
    (runAction setting status a s).session.table.Homogeneous := by
  obtain ⟨kind, u, -, ⟨ds, v, hv, rfl⟩, hcontents⟩ := runAction_passed h
  have hchecked : ({ s with diagnostics := ds } : Session).Settled := ⟨hs.homogeneous, hs.placed⟩
  have hafter := (Check.action_calm ha ⟨kind, setting.host⟩ _ hchecked).2.2
  rw [hv] at hafter
  show (runAction setting status a s).session.table.contents.Homogeneous
  rw [hcontents]
  exact hafter.homogeneous

theorem stopped_loop {kind : CommandKind} {c : Command}
    (h : (runLoop setting kind c s).ending = .error stop) (cs : List Command) :
    Expected setting cs stop := by
  unfold runLoop at h
  by_cases hx : setting.exhausted = some kind
  · rw [if_pos hx] at h
    exact stopped_runOut hx h cs
  · rw [if_neg hx] at h
    cases h

theorem stopped_alone {c : Command} (halone : c.RunsAlone setting) (hc : Intact c.slots)
    (hs : s.Settled) (h : (runCommand setting c s).ending = .error stop) :
    Expected setting c.reached stop := by
  cases c with
  | action status a =>
    rw [runCommand] at h
    rw [Command.reached]
    exact stopped_action hc hs h
  | forLoop status v option args body =>
    rw [runCommand] at h
    exact stopped_loop h _
  | whileLoop status condition body =>
    rw [runCommand] at h
    exact stopped_loop h _
  | conditional status branches otherwise id =>
    rw [runCommand] at h
    by_cases hx : setting.exhausted = some .conditional
    · rw [if_pos hx] at h
      exact stopped_runOut hx h _
    · obtain rfl : branches = [] := halone.resolve_left hx
      rw [if_neg hx] at h
      cases h

theorem homogeneous_alone {c : Command} (halone : c.RunsAlone setting) (hc : Intact c.slots)
    (ht : s.table.Reachable) (hs : s.Settled) :
    (runCommand setting c s).session.table.Homogeneous := by
  rcases table_alone halone ht with heq | ⟨status, a, rfl, hpassed⟩
  · rw [heq]
    exact hs.homogeneous
  · rw [runCommand]
    exact homogeneous_action hc hs hpassed

/-! ## Conditionals -/

/-- A conditional has no record only where its first condition has no text. -/
theorem conditionalRecord_arithmetic (id : Int) (bs : List Branch) (cs : List Command) :
    Arithmetic (conditionalRecord id bs cs) := by
  refine .bind ?_ fun _ => .ok _
  cases bs with
  | nil => exact .ok _
  | cons b rest => exact b.condition.text_arithmetic

theorem stopped_condition (index : Nat) {e : Expr} (he : e.isIntact = true)
    (hs : s.table.Homogeneous) (h : (runCondition setting index e s).1 = .error stop)
    (cs : List Command) : Expected setting cs stop := by
  -- Where the run stands does not matter to a condition, but a settled session has a branch.
  rw [runCondition_bare] at h
  have hbare : (Session.bare s.table.contents none none).Settled := ⟨hs, nofun⟩
  obtain ⟨hbroken, -, -⟩ := Check.condition_calm index he ⟨.conditional, setting.host⟩ _ hbare
  obtain ⟨ds, -, hr⟩ := runCondition_eq setting index e (.bare s.table.contents none none)
  rw [hr] at h
  rcases hc : (Check.condition index e ⟨.conditional, setting.host⟩
      (.bare s.table.contents none none)).1 with (e | b) | done
  all_goals
    rw [hc] at h
    cases h
  exact .inl (hbroken b hc)

/-! ## Runs -/

namespace Part

/-- The slots of a part. -/
def slots : Part → List Expr
  | command _ c => c.slots
  | commands _ cs | otherwise _ cs => Command.allSlots cs
  | condition _ _ _ e => [e]
  | branch _ _ b => b.slots
  | branches _ _ bs => Command.branchSlots bs
  | last _ => []
  | inside _ bs cs => Command.branchSlots bs ++ Command.allSlots cs

theorem Splits.slots_eq {p q r : Part} (h : Splits p q r) : p.slots = q.slots ++ r.slots := by
  cases h with
  | branches id index b rest => cases b with | mk span e cs => rfl
  | _ => rfl

/-- A run of a part that is stopped as expected only, and leaves homogeneous bindings. -/
structure Calm (setting : Setting) (p : Part) (s : Session) : Prop where
  stopped : ∀ stop, (p.run setting s).ending = .error stop → Expected setting p.reached stop
  homogeneous : (p.run setting s).session.table.Homogeneous

theorem settled_of_stands {around : Option (Int × Int)} {c : Command}
    (hs : s.table.Homogeneous) (hp : (command around c).Stands s) : s.Settled where
  homogeneous := hs
  placed id h := by
    cases around with
    | none => cases hp.1.symm.trans h
    | some place => exact ⟨place.2, hp.2⟩

theorem calm_conducted {status : Status} {branches : List Branch} {otherwise : List Command}
    {id : Int} {bs : List Branch} {cs : List Command} {v : Session} {r : Except Setback Unit}
    (h : Conducted setting status branches otherwise id s bs cs v r) (ht : s.table.Reachable)
    (inner : Calm setting (inside id branches otherwise) (s.inside status.span id))
    (around : Option (Int × Int)) :
    Calm setting (command around (.conditional status branches otherwise id)) s where
  stopped stop hstop := by
    show Expected setting (Command.conditional status branches otherwise id).reached stop
    rw [reached_conditional h.hasBranch]
    have hending := ending_of_map hstop
    obtain ⟨-, ⟨within, hwithin, rfl⟩ | ⟨b, hb, rfl⟩⟩ := h.stopped hending
    · have hexpected : Expected setting (.conditional status branches otherwise id ::
          (inside id branches otherwise).reached) within :=
        (inner.stopped within hwithin).mono fun c hc => List.mem_cons_of_mem _ hc
      rw [h.run] at hending
      cases within <;> cases hending <;> exact hexpected
    · -- Its first condition has an integer that is too long for a text.
      exact .inl (conditionalRecord_arithmetic id bs cs b hb)
  homogeneous := by
    show (runCommand setting _ s).session.table.contents.Homogeneous
    rw [contents_conducted h ht]
    have hinside : SymbolTable.Homogeneous (SymbolTable.contents _) := inner.homogeneous
    rcases h.leaving.contents with hsame | ⟨record, hrecord⟩
    · rw [hsame]
      exact hinside
    · -- A record binds no name.
      rw [hrecord]
      exact hinside.apply (w := .setRecord .conditionals id record) trivial

theorem calm_run (setting : Setting) (p : Part) (s : Session) (hi : Intact p.slots)
    (ht : s.table.Reachable) (hs : s.table.Homogeneous) (hp : p.Stands s) : Calm setting p s := by
  induction p, s using run_induction setting with
  | alone around s halone =>
    have hsettled := settled_of_stands hs hp
    exact ⟨fun stop hstop => stopped_alone halone hi hsettled (ending_of_map hstop),
      homogeneous_alone halone hi ht hsettled⟩
  | conditional around h inner => exact calm_conducted h ht (inner hi ht.openJournal hs rfl) around
  | condition id index span e s =>
    refine ⟨fun stop hstop => ?_, ?_⟩
    · refine stopped_condition index (Intact.cons_iff.1 hi).1 hs ?_ _
      cases hc : runCondition setting index e s with
      | mk result u =>
      cases result with
      | error found =>
        rw [run_condition_stop id span hc] at hstop
        cases hstop
        rfl
      | ok held =>
        rw [run_condition_ok id span hc] at hstop
        cases hstop
    · show ((condition id index span e).run setting s).session.table.contents.Homogeneous
      rw [contents_condition]
      exact hs
  | @idle p s h =>
    refine ⟨fun stop hstop => ?_, ?_⟩
    · rw [h.ending_eq] at hstop
      cases hstop
    · show (p.run setting s).session.table.contents.Homogeneous
      rw [(h.kept setting s).2]
      exact hs
  | @halted p q r s stop h first =>
    rw [h.splits.slots_eq, Intact.append_iff] at hi
    have first := first hi.1 ht hs (h.splits.stands hp)
    refine ⟨fun found hfound => ?_, h.session ▸ first.homogeneous⟩
    rw [h.ending] at hfound
    cases hfound
    rw [h.splits.reached_eq]
    exact (first.stopped stop h.first).mono fun c hc => List.mem_append_left _ hc
  | @continued p q r s n h first last =>
    -- The second part needs what the first keeps: homogeneous bindings, in a table that is reached.
    rw [h.splits.slots_eq, Intact.append_iff] at hi
    have first := first hi.1 ht hs (h.splits.stands hp)
    have last := last hi.2 (q.reachable_run setting ht) first.homogeneous (h.stands hp)
    refine ⟨fun stop hstop => ?_, h.session ▸ last.homogeneous⟩
    rw [h.ending] at hstop
    rw [h.splits.reached_eq]
    exact (last.stopped stop (ending_of_map hstop)).mono fun c hc => List.mem_append_right _ hc

end Part

/-- The run of a command is stopped as expected only, and leaves homogeneous bindings. -/
theorem calm_command {c : Command} {s : Session} (around : Option (Int × Int))
    (hc : Intact c.slots) (ht : s.table.Reachable) (hs : s.table.Homogeneous)
    (hp : s.around.conditional = around.map Prod.fst ∧ s.around.branch = around.map Prod.snd) :
    (∀ stop, (runCommand setting c s).ending = .error stop → Expected setting c.reached stop) ∧
      (runCommand setting c s).session.table.Homogeneous := by
  obtain ⟨hstopped, homogeneous⟩ := Part.calm_run setting (.command around c) s hc ht hs hp
  exact ⟨fun stop hstop => hstopped stop (congrArg (failureCount <$> ·) hstop), homogeneous⟩

end DialogScript
