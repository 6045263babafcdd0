import DialogScript.Proofs.Running.Interrupted

/-!
What a run emits: its diagnostics in order, each with the innermost command that was running when it
was found. It has the kind of that command, and a place if the command has one. What an evaluation
warns of is the exception: it has no command.
-/

namespace DialogScript

/-- A diagnostic, and the innermost command that was running when it was found. -/
structure Emitted where
  command : Command
  diagnostic : Diagnostic

namespace Emitted

/-- The diagnostic has the kind of the command, and a place if the command has one. -/
structure Attributed (e : Emitted) : Prop where
  kind : ∃ kind, e.command.kind? = some kind ∧ e.diagnostic.command = some kind.name
  place : e.command.span ≠ none → e.diagnostic.span ≠ none

/-- The diagnostic is the warning of an evaluation that a name is taken for the name of a file. It
has the place of the name, and no command. -/
def OfEvaluation (e : Emitted) : Prop := ∃ r : Raised, r.OfPath ∧ e.diagnostic = r.diagnostic

/-- The diagnostic is attributed, or it is what an evaluation warns of. -/
def Told (e : Emitted) : Prop := e.Attributed ∨ e.OfEvaluation

theorem OfEvaluation.not_attributed {e : Emitted} (h : e.OfEvaluation) : ¬e.Attributed := by
  obtain ⟨r, -, hr⟩ := h
  rintro ⟨⟨kind, -, hkind⟩, -⟩
  rw [hr] at hkind
  cases hkind

end Emitted

/-- What has been found between two sessions, as emitted by a command. -/
def emittedBy (c : Command) (s u : Session) : List Emitted :=
  (u.diagnostics.drop s.diagnostics.length).map (Emitted.mk c)

mutual

/-- What the run of a command emits. A conditional emits what its conditions have met, and what it
is left with after the commands in it. -/
def emitted (setting : Setting) : Command → Session → List Emitted
  | .conditional status branches otherwise id, s =>
    let command := Command.conditional status branches otherwise id
    let left := (runCommand setting command s).session
    let inside := (s.entered .conditional status.span).inConditional id
    if setting.exhausted = some .conditional then emittedBy command s left
    else if branches.isEmpty then emittedBy command s left
    else
      let first := runBranches setting 0 branches inside
      let inner := first.andThen (·) Prod.mk otherwise fun s =>
        runCommands setting otherwise (s.inBranch (-1))
      branchesEmitted setting command 0 branches inside ++
        (first.following fun s => allEmitted setting otherwise (s.inBranch (-1))) ++
        emittedBy command inner.session left
  | .action status a, s =>
    emittedBy (.action status a) s (runCommand setting (.action status a) s).session
  | .forLoop status v option args body, s =>
    emittedBy (.forLoop status v option args body) s
      (runCommand setting (.forLoop status v option args body) s).session
  | .whileLoop status condition body, s =>
    emittedBy (.whileLoop status condition body) s
      (runCommand setting (.whileLoop status condition body) s).session

/-- What the run of some commands emits. -/
def allEmitted (setting : Setting) : List Command → Session → List Emitted
  | [], _ => []
  | c :: rest, s =>
    emitted setting c s ++ (runCommand setting c s).following (allEmitted setting rest)

/-- What the run of a branch of a conditional emits: what the check of its condition has found is
the conditional's own. -/
def branchEmitted (setting : Setting) (around : Command) (index : Nat) :
    Branch → Session → List Emitted
  | .mk _ condition commands, s =>
    let checked := runCondition setting index condition s
    emittedBy around s checked.2 ++
      match checked.1 with
      | .error _ => []
      | .ok _ => allEmitted setting commands (checked.2.inBranch index)

/-- What the run of some branches of a conditional emits. -/
def branchesEmitted (setting : Setting) (around : Command) (index : Nat) :
    List Branch → Session → List Emitted
  | [], _ => []
  | b :: rest, s =>
    branchEmitted setting around index b s ++
      (runBranch setting index b s).following (branchesEmitted setting around (index + 1) rest)

end

/-- A stretch of a run, from one session to another. It adds what some commands have emitted to the
diagnostics, all of it attributed but for what evaluations warn of, and comes back to the command
that it has started in. -/
structure Emits (s u : Session) (cs : List Command) (es : List Emitted) : Prop where
  diagnostics : u.diagnostics = s.diagnostics ++ es.map Emitted.diagnostic
  emitters : ∀ e ∈ es, e.command ∈ cs
  told : ∀ e ∈ es, e.Told
  commands : u.around.commands = s.around.commands

variable {setting : Setting} {s t u : Session} {c : Command} {kind : CommandKind}
  {cs cs' : List Command} {es fs : List Emitted} {ds : List Diagnostic}

namespace Emits

theorem still (hd : u.diagnostics = s.diagnostics) (hu : u.around.commands = s.around.commands) :
    Emits s u cs [] where
  diagnostics := hd.trans (List.append_nil _).symm
  emitters _ h := absurd h List.not_mem_nil
  told _ h := absurd h List.not_mem_nil
  commands := hu

/-- The branch around is of no account. -/
theorem toInBranch (h : Emits s u cs es) (index : Int) : Emits s (u.inBranch index) cs es :=
  ⟨h.diagnostics, h.emitters, h.told, h.commands⟩

theorem append (h : Emits s t cs es) (h' : Emits t u cs' fs) :
    Emits s u (cs ++ cs') (es ++ fs) where
  diagnostics := by rw [h'.diagnostics, h.diagnostics, List.append_assoc, List.map_append]
  emitters e he := List.mem_append.2 ((List.mem_append.1 he).imp (h.emitters e) (h'.emitters e))
  told e he := (List.mem_append.1 he).elim (h.told e) (h'.told e)
  commands := h'.commands.trans h.commands

theorem mono (h : Emits s u cs es) (hs : ∀ c ∈ cs, c ∈ cs') : Emits s u cs' es :=
  { h with emitters := fun e he => hs _ (h.emitters e he) }

/-- What is found while one command is the innermost one. -/
theorem adding (hd : u.diagnostics = s.diagnostics ++ ds)
    (ht : ∀ d ∈ ds, Emitted.Told ⟨c, d⟩)
    (hu : u.around.commands = s.around.commands) : Emits s u [c] (ds.map (Emitted.mk c)) := by
  refine ⟨?_, fun e he => ?_, fun e he => ?_, hu⟩
  · rw [hd, List.map_map]
    exact congrArg _ (List.map_id ds).symm
  · obtain ⟨d, -, rfl⟩ := List.mem_map.1 he
    exact List.mem_singleton_self c
  · obtain ⟨d, hd, rfl⟩ := List.mem_map.1 he
    exact ht d hd

theorem by_command (hd : u.diagnostics = s.diagnostics ++ ds)
    (ht : ∀ d ∈ ds, Emitted.Told ⟨c, d⟩)
    (hu : u.around.commands = s.around.commands) : Emits s u [c] (emittedBy c s u) := by
  have hes : emittedBy c s u = ds.map (Emitted.mk c) := by
    rw [emittedBy, hd, List.drop_left]
  rw [hes]
  exact adding hd ht hu

end Emits

/-! ## What is found, and what a command is left with -/

/-- A remark is about the command that is being run. -/
theorem Check.Found.told (hk : c.kind? = some kind) {d : Diagnostic}
    (h : Check.Found (some ⟨kind, c.span⟩) d) : Emitted.Told ⟨c, d⟩ := by
  cases h with
  | remark r => exact .inl ⟨⟨kind, hk, rfl⟩, id⟩
  | raised h => exact .inr ⟨_, h, rfl⟩

/-- A problem is about the command that it is reported for. -/
theorem Emitted.attributed_problem (hk : c.kind? = some kind) (e : AnalysisError) :
    Emitted.Attributed ⟨c, (Diagnostic.ofError e).attributed (some kind.name) c.span⟩ := by
  refine ⟨⟨kind, hk, rfl⟩, fun hs => ?_⟩
  show (e.span <|> c.span) ≠ none
  cases e.span with
  | none => exact hs
  | some span => exact nofun

theorem Session.finish_commands (u : Session) (kind : CommandKind) (c : Command)
    (r : Except Setback Unit) :
    (u.finish kind c r).session.around.commands = u.around.commands.tail := by
  rcases r with (e | ⟨m | b⟩) | ok <;> rfl

/-- A command is left with no more than a report of its problem. -/
theorem Session.finish_diagnostics (hk : c.kind? = some kind) (u : Session) {c' : Command}
    (hc : c'.span = c.span) (r : Except Setback Unit) :
    ∃ ds, (u.finish kind c' r).session.diagnostics = u.diagnostics ++ ds ∧
      ∀ d ∈ ds, Emitted.Attributed ⟨c, d⟩ := by
  rcases r with (e | ⟨m | b⟩) | ok
  · refine ⟨_, rfl, fun d hd => ?_⟩
    rw [List.mem_singleton.1 hd, hc]
    exact Emitted.attributed_problem hk e
  all_goals exact ⟨[], (List.append_nil _).symm, fun _ hd => absurd hd List.not_mem_nil⟩

/-- A conditional is left after what was run in it. -/
theorem Emits.finish {span : Option Span} (h : Emits s u cs es)
    (hs : s.around.commands = ⟨.conditional, span⟩ :: t.around.commands)
    (ht : s.diagnostics = t.diagnostics) (hk : c.kind? = some kind) (hc : c ∈ cs) {w : Session}
    (hw : w.diagnostics = u.diagnostics ∧ w.around.commands = u.around.commands) {c' : Command}
    (hspan : c'.span = c.span) (r : Except Setback Unit) :
    Emits t (w.finish kind c' r).session cs
      (es ++ emittedBy c u (w.finish kind c' r).session) := by
  obtain ⟨ds, hds, hattributed⟩ := w.finish_diagnostics hk hspan r
  have hout : (w.finish kind c' r).session.around.commands = t.around.commands := by
    rw [w.finish_commands, hw.2, h.commands, hs]
    rfl
  rw [hw.1] at hds
  -- What the conditional is left with is added where the run is back outside.
  have last : Emits { u with around := t.around } (w.finish kind c' r).session [c]
      (emittedBy c u (w.finish kind c' r).session) :=
    .by_command (s := { u with around := t.around }) hds (fun d hd => .inl (hattributed d hd)) hout
  have first : Emits t { u with around := t.around } cs es :=
    { h with
      diagnostics := by rw [← ht]; exact h.diagnostics
      commands := rfl }
  refine (first.append last).mono fun d hd => (List.mem_append.1 hd).elim id fun hd => ?_
  exact List.mem_singleton.1 hd ▸ hc

/-! ## Runs -/

/-- A command in which no other is run. -/
theorem emits_leaf (hk : c.kind? = some kind) (ws : List SymbolTable.Write)
    (hds : ∀ d ∈ ds, Check.Found (some ⟨kind, c.span⟩) d) (r : Except Setback Unit) :
    Emits s (((s.entered kind c.span).after ws ds).finish kind c r).session [c]
      (emittedBy c s (((s.entered kind c.span).after ws ds).finish kind c r).session) := by
  obtain ⟨more, hmore, hattributed⟩ :=
    ((s.entered kind c.span).after ws ds).finish_diagnostics hk rfl r
  have hdiagnostics : (((s.entered kind c.span).after ws ds).finish kind c r).session.diagnostics =
      s.diagnostics ++ (ds ++ more) := by
    rw [hmore]
    exact List.append_assoc _ _ _
  refine .by_command hdiagnostics (fun d hd => ?_) (Session.finish_commands _ _ _ r)
  exact (List.mem_append.1 hd).elim (fun h => (hds d h).told hk) fun h => .inl (hattributed d h)

theorem emits_alone (h : c.RunsAlone setting) :
    Emits s (runCommand setting c s).session [c]
      (emittedBy c s (runCommand setting c s).session) := by
  have hran := runCommand_alone h s
  generalize runCommand setting c s = ran at hran ⊢
  cases hran with
  | kindless hk =>
    exact .by_command (List.append_nil _).symm (fun _ hd => absurd hd List.not_mem_nil) rfl
  | concluded ws hk hds hr => exact emits_leaf hk ws hds _

theorem emitted_alone (h : c.RunsAlone setting) (s : Session) :
    emitted setting c s = emittedBy c s (runCommand setting c s).session := by
  cases c with
  | conditional status branches otherwise id =>
    rw [emitted]
    rcases h with hx | rfl
    · exact if_pos hx
    · exact ite_self _
  | _ => rw [emitted]

/-- The check of a condition is the conditional's own. -/
theorem emits_condition (hk : c.kind? = some .conditional)
    (hs : s.current = some ⟨.conditional, c.span⟩) (index : Nat) (e : Expr) :
    Emits s (runCondition setting index e s).2 [c]
      (emittedBy c s (runCondition setting index e s).2) := by
  obtain ⟨ds, hds, hr⟩ := runCondition_eq setting index e s
  rw [hs] at hds
  have told : ∀ d ∈ ds, Emitted.Told ⟨c, d⟩ := fun d hd => (hds d hd).told hk
  rw [hr]
  split
  · exact .by_command rfl told rfl
  · next err _ =>
    have hnote : ((s.after [] ds).note (Diagnostic.ofError err)).diagnostics =
        s.diagnostics ++ (ds ++ [(Diagnostic.ofError err).attributed
          (some CommandKind.conditional.name) c.span]) := by
      rw [← List.append_assoc]
      show _ ++ [(Diagnostic.ofError err).attributed (s.current.map fun c => c.kind.name)
        (s.current.bind Running.span)] = _
      rw [hs]
      rfl
    refine .by_command hnote (fun d hd => ?_) rfl
    rcases List.mem_append.1 hd with hd | hd
    · exact told d hd
    · rw [List.mem_singleton.1 hd]
      exact .inl (Emitted.attributed_problem hk err)
  · exact .by_command rfl told rfl

namespace Part

variable {p q r : Part} {owner : Command}

/-- What the run of a part of a conditional emits. -/
def emitted (setting : Setting) (owner : Command) : Part → Session → List Emitted
  | command _ c, s => DialogScript.emitted setting c s
  | commands _ cs, s => allEmitted setting cs s
  | condition _ index _ e, s => emittedBy owner s (runCondition setting index e s).2
  | branch _ index b, s => branchEmitted setting owner index b s
  | branches _ index bs, s => branchesEmitted setting owner index bs s
  | last _, _ => []
  | otherwise _ cs, s => allEmitted setting cs (s.inBranch (-1))
  | inside _ bs cs, s =>
    branchesEmitted setting owner 0 bs s ++ (runBranches setting 0 bs s).following fun s =>
      allEmitted setting cs (s.inBranch (-1))

theorem Splits.emitted_eq (h : Splits p q r) (setting : Setting) (owner : Command) (s : Session) :
    p.emitted setting owner s =
      q.emitted setting owner s ++ (q.run setting s).following (r.emitted setting owner) := by
  cases h with
  | commands around c rest =>
    simp only [emitted, run, allEmitted, Ran.following]
    cases (runCommand setting c s).ending <;> rfl
  | branches id index b rest => simp only [emitted, run, branchesEmitted, Ran.following]
  | branch id index span e cs =>
    cases hc : runCondition setting index e s with
    | mk result u => cases result <;> simp [emitted, run, branchEmitted, Ran.following, hc]
  | otherwise id cs => rfl
  | inside id bs cs => simp only [emitted, run, Ran.following]

/-- The commands around a part that emit in it: the conditional around it, unless the part is of
whole commands. -/
def owners (owner : Command) : Part → List Command
  | command .. | commands .. => []
  | _ => [owner]

theorem Splits.mem_owners (h : Splits p q r) {d : Command}
    (hd : d ∈ q.owners owner ∨ d ∈ r.owners owner) : d ∈ p.owners owner := by
  cases h <;> rcases hd with hd | hd <;> first | exact hd | cases hd

/-- Where a part is run that the conditional around it emits in. -/
def OwnedBy (owner : Command) (s : Session) (p : Part) : Prop :=
  p.isWhole = true ∨ s.current = some ⟨.conditional, owner.span⟩

theorem Splits.ownedBy (h : Splits p q r) (hp : p.OwnedBy owner s)
    (hu : u.around.commands = s.around.commands) : q.OwnedBy owner s ∧ r.OwnedBy owner u := by
  rcases hp with hp | hs
  · obtain ⟨hq, hr⟩ := h.isWhole hp
    exact ⟨.inl hq, .inl hr⟩
  · exact ⟨.inr hs, .inr ((congrArg List.head? hu).trans hs)⟩

/-- A part emits what its parts emit, and a conditional what is inside it and what it is left
with. -/
theorem emits_run (setting : Setting) (p : Part) (s : Session)
    (hk : owner.kind? = some .conditional) (hp : p.OwnedBy owner s) :
    Emits s (p.run setting s).session
      (p.owners owner ++ (p.visits setting s).map Visit.command) (p.emitted setting owner s) := by
  induction p, s using run_induction setting generalizing owner with
  | @alone around c s halone =>
    show Emits s (runCommand setting c s).session ((DialogScript.visits setting c s).map _)
      (DialogScript.emitted setting c s)
    rw [visits_alone halone, emitted_alone halone]
    exact emits_alone halone
  | @conditional around status branches otherwise id s bs cs v r h inner =>
    -- Inside it is the conditional that owns what is found between the commands.
    replace inner := @inner (.conditional status branches otherwise id) rfl (.inr rfl)
    show Emits s (runCommand setting _ s).session ((DialogScript.visits setting _ s).map _)
      (DialogScript.emitted setting _ s)
    rw [DialogScript.emitted, if_neg h.memory,
      if_neg fun he => h.hasBranch (List.isEmpty_iff.1 he), h.visits, h.run]
    refine inner.finish rfl rfl rfl List.mem_cons_self ?_ ?_ r
    · have haround := congrArg Around.commands h.leaving.around
      exact ⟨h.leaving.diagnostics, haround⟩
    · rfl
  | condition id index span e s =>
    -- A condition is no whole command, so the run stands in the conditional.
    rcases hp with hp | hs
    · cases hp
    have checked : Emits s (runCondition setting index e s).2 [owner] _ :=
      emits_condition hk hs index e
    show Emits s _ [owner] (emittedBy owner s (runCondition setting index e s).2)
    cases hc : runCondition setting index e s with
    | mk result u =>
    rw [hc] at checked
    cases result with
    | error stop =>
      rw [run_condition_stop id span hc]
      exact checked
    | ok held =>
      rw [run_condition_ok id span hc]
      exact checked.toInBranch index
  | @idle p s h =>
    have hes : p.emitted setting owner s = [] := by
      cases h <;> rfl
    obtain ⟨u, hr, hu⟩ := h.run_eq setting s
    have hsame : u.diagnostics = s.diagnostics ∧ u.around.commands = s.around.commands := by
      rcases hu with rfl | rfl <;> exact ⟨rfl, rfl⟩
    rw [hr, hes]
    exact .still hsame.1 hsame.2
  | @halted p q r s stop h first =>
    rw [h.splits.emitted_eq, Ran.following_of_stop h.first, List.append_nil, h.session, h.visits]
    refine (first hk (h.splits.ownedBy hp rfl).1).mono fun d hd => ?_
    rcases List.mem_append.1 hd with hd | hd
    · exact List.mem_append_left _ (h.splits.mem_owners (.inl hd))
    · exact List.mem_append_right _ hd
  | @continued p q r s n h first last =>
    obtain ⟨hq, hr⟩ := h.splits.ownedBy hp (q.steady setting s).commands
    rw [h.splits.emitted_eq, Ran.following_of_ok h.first, h.session, h.visits, List.map_append]
    refine ((first hk hq).append (last hk hr)).mono fun d hd => ?_
    simp only [List.mem_append] at hd ⊢
    rcases hd with (hd | hd) | hd | hd
    · exact .inl (h.splits.mem_owners (.inl hd))
    · exact .inr (.inl hd)
    · exact .inl (h.splits.mem_owners (.inr hd))
    · exact .inr (.inr hd)

end Part

theorem emits_command (setting : Setting) (c : Command) (s : Session) :
    Emits s (runCommand setting c s).session ((visits setting c s).map Visit.command)
      (emitted setting c s) :=
  -- Whatever is around, a command is whole.
  @Part.emits_run (.conditional {} [] [] 0) setting (.command none c) s rfl (.inl rfl)

/-! ## Where memory has run out -/

/-- A lack of memory is that of the last command visited: it has its kind, and a place if the
command has one. -/
def Shortage.OfLast (m : Shortage) (vs : List Visit) : Prop :=
  ∃ v, vs.getLast? = some v ∧ v.command.kind? = some m.kind ∧
    (v.command.span ≠ none → m.span ≠ none)

namespace Shortage.OfLast

variable {m : Shortage} {vs : List Visit}

theorem after (h : m.OfLast vs) (us : List Visit) : m.OfLast (us ++ vs) := by
  obtain ⟨v, hv, hm⟩ := h
  exact ⟨v, by rw [List.getLast?_append, hv]; rfl, hm⟩

/-- The conditionals around keep the place of a lack of memory where there is one. -/
theorem failing (h : m.OfLast vs) (span : Option Span) : (m.failing span).OfLast vs := by
  obtain ⟨v, hv, hk, hp⟩ := h
  refine ⟨v, hv, hk, fun hs => ?_⟩
  have hm := hp hs
  show (m.span <|> span) ≠ none
  cases hspan : m.span with
  | none => exact absurd hspan hm
  | some place => exact nofun

/-- A command that finds no memory is the last one. -/
theorem here (hx : setting.exhausted = some kind) (hc : c.kind? = some kind)
    (h : (runCommand setting c s).ending = .error (.outOfMemory m)) :
    m.OfLast (visits setting c s) := by
  rw [visits_alone (Command.runsAlone_of_exhausted hx hc)]
  rw [runCommand_of_exhausted hx hc] at h
  obtain rfl : Shortage.failing { kind, span := c.span } c.span = m :=
    Stop.outOfMemory.inj (Except.error.inj h)
  exact failing ⟨⟨c, s⟩, rfl, hc, id⟩ c.span

end Shortage.OfLast

theorem Part.ofLast_run (setting : Setting) (p : Part) (s : Session) {m : Shortage}
    (h : (p.run setting s).ending = .error (.outOfMemory m)) : m.OfLast (p.visits setting s) := by
  induction p, s using run_induction setting generalizing m with
  | alone around s halone =>
    obtain ⟨kind, hx, hk⟩ := exhausted_of_alone halone (ending_of_map h)
    exact .here hx hk (ending_of_map h)
  | @conditional around status branches otherwise id s bs cs v r hconducted inner =>
    obtain ⟨m', hm, rfl, -⟩ := hconducted.outOfMemory (ending_of_map h)
    show Shortage.OfLast _ (DialogScript.visits setting _ s)
    rw [hconducted.visits]
    exact ((inner hm).failing status.span).after [_]
  | condition id index span e s =>
    -- A condition can break down, and finds memory.
    obtain ⟨b, hb⟩ := stop_condition id span h
    cases hb
  | idle s hidle =>
    rw [hidle.ending_eq] at h
    cases h
  | halted hhalted first =>
    rw [hhalted.visits]
    exact first (hhalted.first.trans (hhalted.ending.symm.trans h))
  | continued hcontinued first last =>
    rw [hcontinued.ending] at h
    rw [hcontinued.visits]
    exact (last (ending_of_map h)).after _

/-- A lack of memory arises in the last command that a run visits. -/
theorem ofLast_command (setting : Setting) (c : Command) (s : Session) (m : Shortage)
    (h : (runCommand setting c s).ending = .error (.outOfMemory m)) :
    m.OfLast (visits setting c s) :=
  Part.ofLast_run setting (.command none c) s (congrArg (failureCount <$> ·) h)

end DialogScript
