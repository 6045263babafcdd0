import DialogScript.Proofs.Analysis.Accounting
import DialogScript.Proofs.Running.Arrived
import DialogScript.Proofs.Running.Kept
import DialogScript.Proofs.Running.Once
import DialogScript.Proofs.Running.Sourced

/-!
Analyses in which memory runs out. A kind of command that no check finds memory for ends the
analysis at the first command of that kind that it reaches. The table is the one that the commands
ahead of it leave; it and the conditionals around it are marked, what comes after is not touched,
and no record and no index is made of what was not completed. An analysis that reaches no such
command is the one in which memory is found everywhere.
-/

namespace DialogScript

/-- The commands that an analysis completes before the first command of a kind, with where they
stand. -/
def Script.ahead (kind : CommandKind) (script : Script) : List Placed :=
  Command.allAhead kind none ((schedule script.blocks).map Entry.command)

variable {setting : Setting} {kind : CommandKind}

/-! ## Analyses that reach no such command -/

theorem reached_blockEntries (block place : Nat) (cs : List Command) :
    ((blockEntries block place cs).flatMap fun e => e.command.reached) = Command.allReached cs := by
  induction cs generalizing place with
  | nil => rw [Command.allReached]; rfl
  | cons c rest ih => rw [blockEntries, List.flatMap_cons, ih, Command.allReached]

/-- The commands of a block are reached with those of its kind. -/
theorem hasKind_block {b : Block} {bs : List Block} (hb : b ∈ bs) (place : Nat)
    (h : hasKind kind
      ((kindEntries b.kind place bs).flatMap fun e => e.command.reached) = false) :
    hasKind kind (Command.allReached b.commands) = false := by
  induction bs generalizing place with
  | nil => cases hb
  | cons first rest ih =>
    rw [kindEntries, List.flatMap_append, hasKind_append, Bool.or_eq_false_iff] at h
    rcases List.mem_cons.1 hb with rfl | hb
    · rw [if_pos rfl, reached_blockEntries] at h
      exact h.1
    · exact ih hb _ h.2

theorem Script.hasKind_block {script : Script} (h : hasKind kind script.reached = false) :
    ∀ b ∈ script.blocks, hasKind kind (Command.allReached b.commands) = false := by
  intro b hb
  refine DialogScript.hasKind_block hb 0 ?_
  rw [hasKind_eq_false] at h ⊢
  intro c hc
  refine h c ?_
  unfold Script.reached schedule
  rw [List.flatMap_assoc]
  exact List.mem_flatMap.2 ⟨b.kind, by cases b.kind <;> decide, hc⟩

theorem except_bind_congr {ε α β : Type} {x : Except ε α} {f g : α → Except ε β}
    (h : ∀ a, x = .ok a → f a = g a) : (x >>= f) = (x >>= g) := by
  cases x with
  | error e => rfl
  | ok a => exact h a rfl

namespace Pass

variable {p q : Pass}

theorem command_supplied (hx : setting.exhausted = some kind) (block place : Nat) {c : Command}
    (h : hasKind kind c.reached = false) (p : Pass) :
    command setting block place c p = command setting.supplied block place c p := by
  unfold command runTopmost
  rw [runCommand_supplied hx c p.session h]

theorem commands_supplied (hx : setting.exhausted = some kind) (block place : Nat) (p : Pass)
    {cs : List Command} (h : hasKind kind (Command.allReached cs) = false) :
    commands setting block place p cs = commands setting.supplied block place p cs := by
  induction cs generalizing place p with
  | nil => rfl
  | cons c rest ih =>
    rw [Command.allReached, hasKind_append, Bool.or_eq_false_iff] at h
    rw [commands, commands, command_supplied hx block place h.1]
    refine bind_congr fun found => ?_
    dsimp only
    rw [ih _ _ h.2]

theorem blocks_supplied (hx : setting.exhausted = some kind) (which : BlockKind) (place : Nat)
    (p : Pass) {bs : List Block}
    (h : ∀ b ∈ bs, b.kind = which → hasKind kind (Command.allReached b.commands) = false) :
    blocks setting which place p bs = blocks setting.supplied which place p bs := by
  induction bs generalizing place p with
  | nil => rfl
  | cons b rest ih =>
    obtain ⟨hb, hrest⟩ := List.forall_mem_cons.1 h
    rw [blocks, blocks]
    split
    · rename_i hk
      rw [commands_supplied hx place 0 p (hb hk)]
      refine bind_congr fun found => ?_
      dsimp only
      rw [ih _ _ hrest]
    · rw [ih _ _ hrest]

/-- A pass over the blocks of a kind keeps the blocks of other kinds. -/
theorem mem_blocks {which : BlockKind} {place : Nat} {bs bs' : List Block} {b : Block}
    (h : blocks setting which place p bs = .ok (bs', q)) (hb : b ∈ bs') (hk : b.kind ≠ which) :
    b ∈ bs := by
  induction bs generalizing place p bs' with
  | nil =>
    cases h
    exact hb
  | cons first rest ih =>
    rw [blocks] at h
    split at h
    · rename_i hfirst
      obtain ⟨⟨cs, p'⟩, -, h⟩ := except_bind_ok h
      obtain ⟨⟨rest', q'⟩, hr, h⟩ := except_bind_ok h
      cases h
      rcases List.mem_cons.1 hb with rfl | hb
      · exact absurd hfirst hk
      · exact List.mem_cons_of_mem _ (ih hr hb)
    · obtain ⟨⟨rest', q'⟩, hr, h⟩ := except_bind_ok h
      cases h
      rcases List.mem_cons.1 hb with rfl | hb
      · exact List.mem_cons_self
      · exact List.mem_cons_of_mem _ (ih hr hb)

theorem kinds_supplied (hx : setting.exhausted = some kind) (p : Pass) {ks : List BlockKind}
    {bs : List Block} (hn : ks.Nodup)
    (h : ∀ b ∈ bs, b.kind ∈ ks → hasKind kind (Command.allReached b.commands) = false) :
    kinds setting bs p ks = kinds setting.supplied bs p ks := by
  induction ks generalizing bs p with
  | nil => rfl
  | cons which rest ih =>
    obtain ⟨hfresh, hrest⟩ := List.nodup_cons.1 hn
    rw [kinds, kinds,
      blocks_supplied hx which 0 p fun b hb hk => h b hb (by rw [hk]; exact List.mem_cons_self)]
    refine except_bind_congr fun found hblocks => ?_
    obtain ⟨bs', q⟩ := found
    refine ih q hrest fun b hb hk => h b ?_ (List.mem_cons_of_mem _ hk)
    -- The kinds are apart, so the blocks of the others are still as they were.
    refine mem_blocks hblocks hb ?_
    rintro rfl
    exact hfresh hk

/-! ## Passes that are ended -/

/-- A command of a pass that goes on: it is completed, or memory runs out in it and the pass is
ended. -/
theorem command_settled {block place : Nat} {c c' : Command} (ha : p.aborted = false)
    (h : command setting block place c p = .ok (c', q)) :
    let ran := runCommand setting c p.session
    c' = ran.tree ∧ q.session.table = ran.session.table ∧ q.session.around = ran.session.around ∧
      ((q.aborted = false ∧ q.session = ran.session ∧ ∃ passed, ran.ending = .ok passed) ∨
        (q.aborted = true ∧ q.invalid = p.invalid ++ [(block, place)] ∧
          ∃ m, ran.ending = .error (.outOfMemory m))) := by
  obtain ⟨htree, ⟨hr, rfl⟩ | ⟨hr, rfl⟩ | ⟨m, hr, rfl⟩⟩ := Pass.command_cases ha h
  · exact ⟨htree, rfl, rfl, .inl ⟨ha, rfl, true, hr⟩⟩
  · exact ⟨htree, rfl, rfl, .inl ⟨ha, rfl, false, hr⟩⟩
  · exact ⟨htree, rfl, rfl, .inr ⟨rfl, rfl, m, hr⟩⟩

/-- A pass that has ended does nothing more. -/
theorem Course.ended {es es' : List Entry} (h : Course setting p es es' q)
    (ha : p.aborted = true) : q = p ∧ es' = es := by
  cases h with
  | done => exact ⟨rfl, rfl⟩
  | idle => exact ⟨rfl, rfl⟩
  | step hrun =>
    rw [ha] at hrun
    cases hrun

end Pass

section

variable {p q : Pass} {es es' : List Entry}

/-- A pass leaves the table that the commands ahead leave, run one after another where memory is
found. -/
theorem table_through (hx : setting.exhausted = some kind) (ha : p.aborted = false)
    (ht : p.session.table.Reachable)
    (hb : p.session.around.conditional = none ∧ p.session.around.branch = none)
    (h : Pass.Course setting p es es' q) :
    q.session.table = runPlaced setting.supplied p.session.table
      (Command.allAhead kind none (es.map Entry.command)) := by
  induction h with
  | done p =>
    rw [List.map_nil, Command.allAhead]
    rfl
  | idle hstopped es =>
    rw [ha] at hstopped
    cases hstopped
  | @step p u q e rest rest' c _ hcommand hrest ih =>
    obtain ⟨-, htable, haround, hend⟩ := Pass.command_settled ha hcommand
    have closed := closed_command setting e.command ht
    have horderly : Orderly (runCommand setting e.command p.session).ending := by
      intro b hb
      rcases hend with ⟨-, -, passed, hr⟩ | ⟨-, -, m, hr⟩ <;> cases hr.symm.trans hb
    have first : (runCommand setting e.command p.session).session.table =
        runPlaced setting.supplied p.session.table (e.command.ahead kind none) :=
      table_runCommand hx ht hb horderly
    have signals := signals_command hx e.command p.session
    rw [List.map_cons, Command.allAhead, runPlaced_append, ← first, ← htable]
    rcases hend with ⟨hgoes, -, passed, hr⟩ | ⟨hstops, -, m, hr⟩
    · rw [signals.ok passed hr]
      exact ih hgoes (htable ▸ closed.reachable) (by rw [haround, closed.around]; exact hb)
    · rw [if_pos (signals.outOfMemory m hr), (hrest.ended hstops).1]
      rfl

/-- A pass leaves what the commands that it completes leave one by one. -/
theorem keeps_through (hc : entryFaults es = 0) (ht : p.session.table.Reachable)
    (hb : p.session.around.conditional = none ∧ p.session.around.branch = none)
    (h : Pass.Course setting p es es' q) :
    Keeps setting p.session.table.contents (Pass.visits setting p es)
      q.session.table.contents := by
  induction h with
  | done p => exact .nil setting _
  | idle ha es =>
    rw [Pass.visits_of_aborted ha]
    exact .nil setting _
  | @step p u q e rest rest' c ha hcommand hrest ih =>
    rw [entryFaults_cons] at hc
    obtain ⟨-, htable, haround, -⟩ := Pass.command_settled ha hcommand
    have closed := closed_command setting e.command ht
    have first := keeps_command setting e.command none (by omega) ht hb
    rw [← htable] at first
    rw [Pass.visits_cons rest ha hcommand]
    exact first.append
      (ih (by omega) (htable ▸ closed.reachable) (by rw [haround, closed.around]; exact hb))

/-- The scheduled command in which a pass has been ended: none before it reaches a command of the
kind, the last one visited is reached in it, it is the last one listed, and those after it are not
touched. -/
structure EndedIn (kind : CommandKind) (es es' : List Entry) (last : Command)
    (invalid : List (Nat × Nat)) (e : Entry) (rest : List Entry) : Prop where
  schedule : ∃ before, es = before ++ e :: rest ∧
    hasKind kind (before.flatMap fun e => e.command.reached) = false
  left : ∃ before c, es' = before ++ { e with command := c } :: rest
  inside : last ∈ e.command.reached
  listed : ∃ others, invalid = others ++ [(e.block, e.place)]

theorem interrupted_through (hx : setting.exhausted = some kind) (ha : p.aborted = false)
    (hq : q.aborted = true) (h : Pass.Course setting p es es' q) :
    ∃ earlier last rest, Interrupted setting kind
        (Command.allAhead kind none (es.map Entry.command)) earlier last rest
        (Pass.visits setting p es) (es.flatMap fun e => e.command.reached)
        (es'.flatMap fun e => e.command.reached) ∧
      ∃ e others, EndedIn kind es es' last.command q.invalid e others := by
  induction h with
  | done p =>
    rw [ha] at hq
    cases hq
  | idle hstopped es =>
    rw [ha] at hstopped
    cases hstopped
  | @step p u q e rest rest' c _ hcommand hrest ih =>
    obtain ⟨rfl, -, -, hend⟩ := Pass.command_settled ha hcommand
    rw [Pass.visits_cons rest ha hcommand, List.map_cons, Command.allAhead, List.flatMap_cons,
      List.flatMap_cons]
    rcases hend with ⟨hgoes, -, passed, hr⟩ | ⟨hstops, hlisted, m, hr⟩
    · have first := ended_command setting e.command p.session passed hr
      have hout := first.hasKind hx
      obtain ⟨earlier, last, untouched, others, f, fs, hin⟩ := ih hgoes hq
      rw [hout]
      refine ⟨_, _, _, others.afterEnded hx first (allReached_of_avoids hout none), f, fs, ?_⟩
      obtain ⟨before, rfl, hbefore⟩ := hin.schedule
      obtain ⟨before', c', rfl⟩ := hin.left
      refine ⟨⟨e :: before, rfl, ?_⟩, ⟨_ :: before', c', rfl⟩, hin.inside, hin.listed⟩
      rw [List.flatMap_cons, hasKind_append, hout, hbefore]
      rfl
    · -- Memory has run out, and the pass goes over the others without a change.
      obtain ⟨rfl, rfl⟩ := hrest.ended hstops
      have hin := (cutShort_command hx e.command none p.session m hr).hasKind
      obtain ⟨earlier, last, untouched, first⟩ :=
        cutShort_command hx e.command none p.session m hr
      rw [Pass.visits_of_aborted hstops, List.append_nil, if_pos hin, List.append_nil]
      refine ⟨_, _, _, first.beforeOthers _, e, _, ⟨[], rfl, rfl⟩, ⟨[], _, rfl⟩, ?_,
        p.invalid, hlisted⟩
      rw [first.commands]
      exact List.mem_append_right _ List.mem_cons_self

end

/-! ## What is not made -/

/-- Along a trail, an entry that no visited command sets stays as it is. -/
theorem Trail.unset {t u : SymbolTable} {vs : List Visit} {which : Singleton}
    (h : Trail setting t vs u) (hn : ∀ v ∈ vs, ¬v.Sets setting which) :
    u.singleton which = t.singleton which := by
  induction h with
  | done hsame => exact singleton_of_unrecorded hsame which
  | @step t u v vs hsame hv _ ih =>
    obtain ⟨hself, hothers⟩ := List.forall_mem_cons.1 hn
    rw [ih hothers]
    rcases Visit.singleton_after setting hv which with ⟨-, hkept⟩ | ⟨hsets, -⟩
    · exact hkept.trans (singleton_of_unrecorded hsame which)
    · exact absurd hsets hself

/-- No command makes an index of watchers. -/
theorem not_sets_watcherIndex (v : Visit) : ¬v.Sets setting .watcherIndex := by
  intro h
  obtain ⟨a, -, ha⟩ := Option.bind_eq_some_iff.1 h
  cases a <;> cases ha

theorem watcherIndex_runPlaced {t : SymbolTable} (ht : t.Reachable) (ps : List Placed) :
    (runPlaced setting t ps).singleton .watcherIndex = t.singleton .watcherIndex := by
  induction ps generalizing t with
  | nil => rfl
  | cons p rest ih =>
    have hs : (p.start t).table.Reachable := ht
    rw [runPlaced, ih (closed_command setting p.command hs).reachable]
    exact (trail_command setting p.command hs).unset fun v _ => not_sets_watcherIndex v

/-! ## The whole script -/

/-- An analysis that a lack of memory has ended at the first command of a kind that it reaches, the
last one that it visits. -/
structure Aborted (setting : Setting) (kind : CommandKind) (table : SymbolTable) (script : Script)
    (a : Analysis) (earlier : List Visit) (last : Visit) (rest : List Command) : Prop where
  aborted : a.pass.aborted = true
  left : a.table = runPlaced setting.supplied table (script.ahead kind)
  index : a.table.singleton .watcherIndex = table.singleton .watcherIndex
  interrupted : Interrupted setting kind (script.ahead kind) earlier last rest
    (script.visits setting table) script.reached a.script.reached
  fresh : ∀ c ∈ rest, c.faults = 0
  recorded : ∃ ps : List Placed, ps.map Placed.command =
      (earlier.filter (Visit.completes setting)).map (Visit.tree setting) ∧
    Sourced .conditionals table a.table ps
  unrecorded : ∀ id, (∀ w ∈ earlier, w.completes setting = true →
      (w.tree setting).branchedId? ≠ some id) →
    a.table.record .conditionals id = table.record .conditionals id
  listed : ∃ e others, EndedIn kind (schedule script.blocks) (schedule a.script.blocks)
    last.command a.pass.invalid e others

/-- An analysis in which one kind of command finds no memory, whatever its checks have found and
written before. If it reaches a command of the kind, it is ended at the first one, with the table
that the commands completed before it leave: what it wrote itself is taken back. The command and the
conditionals around it are marked, everything after it is untouched, and the last one listed is the
command that stands in a block directly and holds it. No conditional gets a record but those that
were completed, and no watcher index is made. If it reaches no command of the kind, it is the
analysis in which memory is found everywhere. -/
theorem Script.analyze_exhausted {setting : Setting} {kind : CommandKind} {table : SymbolTable}
    {script : Script} {a : Analysis} (hx : setting.exhausted = some kind) (ht : table.Reachable)
    (hf : ∀ f ∈ script.flags, f = true) (h : script.analyze setting table = .ok a) :
    (hasKind kind script.reached = false → script.analyze setting.supplied table = .ok a) ∧
      (hasKind kind script.reached = true →
        ∃ earlier last rest, Aborted setting kind table script a earlier last rest) := by
  refine ⟨fun hnone => ?_, fun hsome => ?_⟩
  · have havoids := Script.hasKind_block hnone
    rw [← h, Script.analyze, Script.analyze,
      Pass.kinds_supplied hx { session := { table } } (by decide) fun b hb _ => havoids b hb]
  · obtain ⟨p, hp, hpass⟩ := Script.analyze_through h
    have hfresh : entryFaults (schedule script.blocks) = 0 := entryFaults_unmarked hf
    have hcourse := Pass.course_of_through hp
    -- A pass to its end would have run each command that it reaches to its end.
    have hstopped : p.aborted = true := by
      rw [← Bool.not_eq_false]
      intro hgoes
      have hnone := (ended_through hp hgoes).hasKind hx
      exact Bool.false_ne_true (hnone.symm.trans hsome)
    have hsame : a.pass = p := by
      rw [hpass, Pass.indexed, if_pos hstopped]
    have hleft : a.table = p.session.table := by rw [Analysis.table, hsame]
    have htable : a.table = runPlaced setting.supplied table (script.ahead kind) := by
      rw [hleft]
      exact table_through hx rfl ht ⟨rfl, rfl⟩ hcourse
    obtain ⟨earlier, last, rest, hinterrupted, hlisted⟩ :=
      interrupted_through hx rfl hstopped hcourse
    obtain ⟨ps, hps, hleaves⟩ := keeps_through hfresh ht ⟨rfl, rfl⟩ hcourse
    rw [hinterrupted.filter_completes hx] at hps
    have hsourced : Sourced .conditionals table a.table ps := by
      rw [hleft]
      have hrecords := hleaves.sourced .conditionals
      exact ⟨hrecords.keeps, hrecords.made, hrecords.source⟩
    refine ⟨earlier, last, rest, hsame ▸ hstopped, htable, ?_, hinterrupted, ?_,
      ⟨ps, hps, hsourced⟩, ?_, hsame ▸ hlisted⟩
    · rw [htable]
      exact watcherIndex_runPlaced ht _
    · exact fun c hc => faults_reached hfresh c (hinterrupted.mem_rest hc)
    · intro id hid
      refine hsourced.unchanged fun p hp hrecord => ?_
      have hmem := List.mem_map_of_mem (f := Placed.command) hp
      rw [hps] at hmem
      obtain ⟨w, hw, htree⟩ := List.mem_map.1 hmem
      obtain ⟨hearlier, hdone⟩ := List.mem_filter.1 hw
      exact hid w hearlier hdone (htree ▸ hrecord)

/-- An expression in a conditional, after another conditional and before other commands. -/
def nestedExpression : Script :=
  { blocks := [{ kind := .tab, commands := [.action {} (.invalidate "T")] },
      { kind := .gui, commands := [.action {} (.invalidate "A"),
        .conditional {} [.mk none (.literal none (.bool true)) [.action {} (.invalidate "B"),
          .conditional {} [.mk none .absent [.action {} (.invalidate "C")]] [] 2,
          .action {} (.evaluate (.named none "B")), .action {} (.invalidate "D")]]
          [.action {} (.invalidate "E")] 1,
        .action {} (.invalidate "F")] }] }

/-- A setting in which the checks of expressions find no memory after they have bound a name. -/
def noExpressions : Setting :=
  { exhausted := some .expression, progress := fun _ _ => [.write (.declare "P" (.integer 1))] }

theorem analyze_exhausted_nestedExpression :
    (∃ a earlier last rest,
      nestedExpression.analyze noExpressions {} = .ok a ∧
      Aborted noExpressions .expression {} nestedExpression a earlier last rest ∧
      a.table.lookup "P" = none ∧
      a.table.trackedList .invalidatedParams = some [.string "A", .string "B", .string "C"] ∧
      a.table.record .conditionals 2 ≠ none ∧ a.table.record .conditionals 1 = none ∧
      a.table.singleton .watcherIndex = none ∧ a.pass.invalid = [(1, 1)]) ∧
    ∃ a, nestedExpression.analyze { exhausted := some .showParam } {} = .ok a ∧
      nestedExpression.analyze {} {} = .ok a := by
  have hf : ∀ f ∈ nestedExpression.flags, f = true := by decide
  refine ⟨?_, ?_⟩
  · obtain ⟨a, h⟩ : ∃ a, nestedExpression.analyze noExpressions {} = .ok a := ⟨_, rfl⟩
    obtain ⟨earlier, last, rest, hab⟩ :=
      (Script.analyze_exhausted rfl .empty hf h).2 (by decide)
    refine ⟨a, earlier, last, rest, h, hab, ?_, ?_, ?_, ?_, hab.index, ?_⟩
    · rw [hab.left]
      rfl
    · rw [hab.left]
      rfl
    · rw [hab.left]
      exact nofun
    · rw [hab.left]
      rfl
    · cases h
      rfl
  · obtain ⟨a, h⟩ : ∃ a, nestedExpression.analyze { exhausted := some .showParam } {} = .ok a :=
      ⟨_, rfl⟩
    exact ⟨a, h, (Script.analyze_exhausted rfl .empty hf h).1 (by decide)⟩

end DialogScript
