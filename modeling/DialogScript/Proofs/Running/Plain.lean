import DialogScript.Proofs.Running.Steady

/-!
Runs without journals. A plain run works on what is in a table and is told the branch around each
command. An action that does not pass writes nothing; nothing else is ever taken back, so what a
conditional has written stays, however it ends. A run with its journals does the same to the table,
the tree and the ending, whatever is around it: when a conditional is left, its own journal is
empty, since each command in it has closed the journal it wrote to.
-/

namespace DialogScript

/-- What a plain run leaves: the tree with its flags, how it ended, and the table. -/
structure Outcome (α β : Type) where
  tree : α
  ending : Except Stop β
  table : SymbolTable

/-- Runs another part of the tree after a first one, and counts the failures of both. -/
def Outcome.andThen {α β γ δ : Type} (first : Outcome α β) (count : β → Nat) (join : α → γ → δ)
    (other : γ) (next : SymbolTable → Outcome γ Nat) : Outcome δ Nat :=
  match first.ending with
  | .error stop => ⟨join first.tree other, .error stop, first.table⟩
  | .ok found =>
    let last := next first.table
    ⟨join first.tree last.tree, (count found + ·) <$> last.ending, last.table⟩

/-- A session with a table and a branch around, and nothing else. -/
def Session.bare (t : SymbolTable) (conditional branch : Option Int) : Session :=
  { table := t, around := { conditional, branch } }

/-- Ends a plain run. A command that passes leaves one table, any other another one. -/
def plainEnd (c : Command) (passed failed : SymbolTable) :
    Except Setback Unit → Outcome Command Bool
  | .ok () => ⟨c, .ok true, passed⟩
  | .error (.problem _) => ⟨c.markInvalid, .ok false, failed⟩
  | .error (.stop (.outOfMemory m)) =>
    ⟨c.markInvalid, .error (.outOfMemory (m.failing c.span)), failed⟩
  | .error (.stop (.broken b)) => ⟨c, .error (.broken b), failed⟩

/-- Runs an action: it leaves what its check writes, if it passes. -/
def plainAction (setting : Setting) (status : Status) (a : Action)
    (conditional branch : Option Int) (t : SymbolTable) : Outcome Command Bool :=
  match a.kind? with
  | none => ⟨.action status a, .error (.broken (.noMember "SelectCommand" "kind")), t⟩
  | some kind =>
    if setting.exhausted = some kind then
      plainEnd (.action status a) t t (.error (.noMemory kind status.span))
    else
      let checked := Check.action a ⟨kind, setting.host⟩ (.bare t conditional branch)
      plainEnd (.action status a) checked.2.table t (checked.1.mapError Setback.ofFailure)

/-- Passes over a loop. -/
def plainLoop (setting : Setting) (kind : CommandKind) (c : Command) (t : SymbolTable) :
    Outcome Command Bool :=
  if setting.exhausted = some kind then plainEnd c t t (.error (.noMemory kind c.span))
  else ⟨c, .ok true, t⟩

/-- Leaves a conditional after what is in it has been run. What was written in it is kept, however
it ends; its record is set unless a stop has ended it. -/
def plainLeave (status : Status) (id : Int) (inner : Outcome (List Branch × List Command) Nat) :
    Outcome Command Bool :=
  let command := Command.conditional status inner.tree.1 inner.tree.2 id
  match inner.ending with
  | .error stop => plainEnd command inner.table inner.table (.error (.stop stop))
  | .ok failures =>
    match conditionalRecord id inner.tree.1 inner.tree.2 with
    | .error b => plainEnd command inner.table inner.table (.error (.stop (.broken b)))
    | .ok record =>
      let recorded := inner.table.setRecord .conditionals id record
      plainEnd command recorded recorded (conditionalEnding failures status.span)

mutual

/-- Runs a command in the branch around it. -/
def plainCommand (setting : Setting) :
    Command → Option Int → Option Int → SymbolTable → Outcome Command Bool
  | .action status a, conditional, branch, t => plainAction setting status a conditional branch t
  | .forLoop status v option args body, _, _, t =>
    plainLoop setting .forLoop (.forLoop status v option args body) t
  | .whileLoop status condition body, _, _, t =>
    plainLoop setting .whileLoop (.whileLoop status condition body) t
  | .conditional status branches otherwise id, _, _, t =>
    let command := Command.conditional status branches otherwise id
    if setting.exhausted = some .conditional then
      plainEnd command t t (.error (.noMemory .conditional status.span))
    else if branches.isEmpty then
      plainEnd command t t (.error (.problem ⟨.missingField .conditional "IF branch", none⟩))
    else
      plainLeave status id
        ((plainBranches setting id 0 branches t).andThen (·) Prod.mk otherwise
          (plainCommands setting otherwise (some id) (some (-1))))

/-- Runs commands in order in the branch around them. -/
def plainCommands (setting : Setting) :
    List Command → Option Int → Option Int → SymbolTable → Outcome (List Command) Nat
  | [], _, _, t => ⟨[], .ok 0, t⟩
  | c :: rest, conditional, branch, t =>
    (plainCommand setting c conditional branch t).andThen failureCount List.cons rest
      (plainCommands setting rest conditional branch)

/-- Runs a branch of a conditional. -/
def plainBranch (setting : Setting) (id : Int) (index : Nat) :
    Branch → SymbolTable → Outcome Branch Nat
  | .mk span condition commands, t =>
    match (runCondition setting index condition (.bare t none none)).1 with
    | .error stop => ⟨.mk span condition commands, .error stop, t⟩
    | .ok held =>
      let inner := plainCommands setting commands (some id) (some index) t
      ⟨.mk span condition inner.tree, (failureCount held + ·) <$> inner.ending, inner.table⟩

/-- Runs the branches of a conditional in order, from one index on. -/
def plainBranches (setting : Setting) (id : Int) (index : Nat) :
    List Branch → SymbolTable → Outcome (List Branch) Nat
  | [], t => ⟨[], .ok 0, t⟩
  | b :: rest, t =>
    (plainBranch setting id index b t).andThen (·) List.cons rest
      (plainBranches setting id (index + 1) rest)

end

/-- A run with journals leaves the tree, the ending and the contents of the table that a plain run
leaves. -/
structure Mirrors {α β : Type} (ran : Ran α β) (out : Outcome α β) : Prop where
  tree : ran.tree = out.tree
  ending : ran.ending = out.ending
  contents : ran.session.table.contents = out.table

variable {setting : Setting} {s u v : Session} {t : SymbolTable} {stop : Stop} {n : Nat}

/-! ## Leaving a command -/

theorem plainEnd_error (c : Command) (passed failed : SymbolTable) (b : Setback) :
    plainEnd c passed failed (.error b) = plainEnd c failed failed (.error b) := by
  rcases b with e | ⟨m | b⟩ <;> rfl

/-- A command that is left after some writes by its check, and how the check ended. -/
theorem mirrors_finish_after (hs : s.table.Reachable) (kind : CommandKind) (c : Command)
    (span : Option Span) (ws : List SymbolTable.Write) (ds : List Diagnostic)
    (e : Except Setback Unit) :
    Mirrors (((s.entered kind span).after ws ds).finish kind c e)
      (plainEnd c (s.table.contents.applyAll ws) s.table.contents e) := by
  cases e with
  | ok done =>
    refine ⟨rfl, rfl, ?_⟩
    show (s.table.openJournal.applyAll ws).contents = s.table.contents.applyAll ws
    rw [SymbolTable.contents_applyAll]
    rfl
  | error b =>
    obtain ⟨-, ht, -⟩ := Session.finish_of_setback ((s.entered kind span).after ws ds) kind c b
    rw [Session.takenBack_after hs] at ht
    refine ⟨?_, ?_, ?_⟩
    · rcases b with e | ⟨m | b⟩ <;> rfl
    · rcases b with e | ⟨m | b⟩ <;> rfl
    · rw [ht]
      rcases b with e | ⟨m | b⟩ <;> rfl

theorem mirrors_runOut (hs : s.table.Reachable) (kind : CommandKind) (c : Command) :
    Mirrors (s.runOut setting kind c)
      (plainEnd c s.table.contents s.table.contents (.error (.noMemory kind c.span))) := by
  obtain ⟨ws, ds, -, hr⟩ := s.runOut_eq setting kind c
  rw [hr, ← plainEnd_error c (s.table.contents.applyAll ws)]
  exact mirrors_finish_after hs kind c c.span ws ds _

/-- A command that is left with an empty journal: nothing is taken back. -/
theorem mirrors_finish_empty {js : List (List Undo)} (hj : u.table.journals = [] :: js)
    (kind : CommandKind) (c : Command) (e : Except Setback Unit) :
    Mirrors (u.finish kind c e) (plainEnd c u.table.contents u.table.contents e) := by
  refine ⟨?_, ?_, ?_⟩
  · rcases e with (e | ⟨m | b⟩) | ok <;> rfl
  · rcases e with (e | ⟨m | b⟩) | ok <;> rfl
  · rw [Session.finish_empty hj]
    rcases e with (e | ⟨m | b⟩) | ok <;> rfl

/-! ## Commands in which no other is run -/

theorem mirrors_action (status : Status) (a : Action) (hs : s.table.Reachable) :
    Mirrors (runAction setting status a s)
      (plainAction setting status a s.around.conditional s.around.branch s.table.contents) := by
  unfold runAction plainAction
  cases hk : a.kind? with
  | none => exact ⟨rfl, rfl, rfl⟩
  | some kind =>
    dsimp only
    split
    · exact mirrors_runOut hs kind (.action status a)
    · -- The check finds the same in its session and in the bare one.
      have halike : Session.Alike
          (.bare s.table.contents s.around.conditional s.around.branch)
          (s.entered kind status.span) := ⟨rfl, rfl, rfl⟩
      obtain ⟨ws, -, hws⟩ := Check.action_tame a ⟨kind, setting.host⟩
        (.bare s.table.contents s.around.conditional s.around.branch)
      obtain ⟨-, es, hbare, -⟩ := hws _ (.refl _)
      obtain ⟨hr, ds, hinside, -⟩ := hws _ halike
      rw [hinside, hr, hbare]
      exact mirrors_finish_after hs kind _ status.span ws ds _

theorem mirrors_loop (kind : CommandKind) (c : Command) (hs : s.table.Reachable) :
    Mirrors (runLoop setting kind c s) (plainLoop setting kind c s.table.contents) := by
  unfold runLoop plainLoop
  split
  · exact mirrors_runOut hs kind c
  · exact ⟨rfl, rfl, rfl⟩

theorem mirrors_alone {c : Command} (h : c.RunsAlone setting) (hs : s.table.Reachable) :
    Mirrors (runCommand setting c s)
      (plainCommand setting c s.around.conditional s.around.branch s.table.contents) := by
  cases c with
  | action status a =>
    rw [runCommand, plainCommand]
    exact mirrors_action status a hs
  | forLoop status v option args body =>
    rw [runCommand, plainCommand]
    exact mirrors_loop .forLoop _ hs
  | whileLoop status condition body =>
    rw [runCommand, plainCommand]
    exact mirrors_loop .whileLoop _ hs
  | conditional status branches otherwise id =>
    rw [runCommand, plainCommand]
    by_cases hx : setting.exhausted = some .conditional
    · rw [if_pos hx, if_pos hx]
      exact mirrors_runOut hs .conditional (.conditional status branches otherwise id)
    · obtain rfl : branches = [] := h.resolve_left hx
      rw [if_neg hx, if_neg hx, if_pos List.isEmpty_nil, if_pos List.isEmpty_nil]
      have refused := mirrors_finish_after hs .conditional (.conditional status [] otherwise id)
        status.span [] [] (.error (.problem ⟨.missingField .conditional "IF branch", none⟩))
      rwa [Session.after_nil] at refused

/-! ## Conditions -/

/-- What a condition is found to be depends on nothing but the bindings. -/
theorem condition_bare (index : Nat) (e : Expr) (p : Place) (s : Session) :
    (Check.condition index e p s).1 =
      (Check.condition index e p (.bare s.table.contents none none)).1 := by
  unfold Check.condition Check.requirePresent
  by_cases he : e.isAbsent = true
  · simp only [he, if_true, Check.bind_apply]
    rfl
  · simp only [he, if_false, Bool.false_eq_true, Check.bind_apply, Check.typeOf, Check.eval,
      Check.kind, Check.pure_apply]
    have hl : (Session.bare s.table.contents none none).table.lookup = s.table.lookup := rfl
    rw [hl]
    cases (e.typeOf ⟨s.table.lookup, p.host.epsilon⟩).result with
    | error f => rfl
    | ok found => cases found <;> rfl

theorem runCondition_bare (setting : Setting) (index : Nat) (e : Expr) (s : Session) :
    (runCondition setting index e s).1 =
      (runCondition setting index e (.bare s.table.contents none none)).1 := by
  obtain ⟨ds, -, hs⟩ := runCondition_eq setting index e s
  obtain ⟨es, -, hb⟩ := runCondition_eq setting index e (.bare s.table.contents none none)
  rw [hs, hb, condition_bare]
  split <;> rfl

/-! ## Parts -/

namespace Outcome

variable {α β γ δ : Type} {first : Outcome α β}

theorem andThen_of_stop (h : first.ending = .error stop) (count : β → Nat) (join : α → γ → δ)
    (other : γ) (next : SymbolTable → Outcome γ Nat) :
    first.andThen count join other next = ⟨join first.tree other, .error stop, first.table⟩ := by
  rw [andThen, h]

theorem andThen_of_ok {found : β} (h : first.ending = .ok found) (count : β → Nat)
    (join : α → γ → δ) (other : γ) (next : SymbolTable → Outcome γ Nat) :
    first.andThen count join other next =
      ⟨join first.tree (next first.table).tree, (count found + ·) <$> (next first.table).ending,
        (next first.table).table⟩ := by
  rw [andThen, h]

end Outcome

namespace Part

variable {p q r : Part}

/-- The plain run of a part. -/
def plain (setting : Setting) : Part → SymbolTable → Outcome Part Nat
  | command around c, t =>
    let out := plainCommand setting c (around.map Prod.fst) (around.map Prod.snd) t
    ⟨command around out.tree, failureCount <$> out.ending, out.table⟩
  | commands around cs, t =>
    let out := plainCommands setting cs (around.map Prod.fst) (around.map Prod.snd) t
    ⟨commands around out.tree, out.ending, out.table⟩
  | condition id index span e, t =>
    ⟨condition id index span e,
      failureCount <$> (runCondition setting index e (.bare t none none)).1, t⟩
  | branch id index b, t =>
    let out := plainBranch setting id index b t
    ⟨branch id index out.tree, out.ending, out.table⟩
  | branches id index bs, t =>
    let out := plainBranches setting id index bs t
    ⟨branches id index out.tree, out.ending, out.table⟩
  | last id, t => ⟨last id, .ok 0, t⟩
  | otherwise id cs, t =>
    let out := plainCommands setting cs (some id) (some (-1)) t
    ⟨otherwise id out.tree, out.ending, out.table⟩
  | inside id bs cs, t =>
    let out := (plainBranches setting id 0 bs t).andThen (·) Prod.mk cs
      (plainCommands setting cs (some id) (some (-1)))
    ⟨inside id out.tree.1 out.tree.2, out.ending, out.table⟩

theorem Splits.plain_of_stop (h : Splits p q r) (hq : (q.plain setting t).ending = .error stop) :
    ∃ p', Splits p' (q.plain setting t).tree r ∧
      p.plain setting t = ⟨p', .error stop, (q.plain setting t).table⟩ := by
  cases h with
  | commands around c rest =>
    refine ⟨_, .commands around _ rest, ?_⟩
    simp only [plain, plainCommands, Outcome.andThen_of_stop (ending_of_map hq)]
  | branches id index b rest =>
    refine ⟨_, .branches id index _ rest, ?_⟩
    simp only [plain, plainBranches, Outcome.andThen_of_stop (α := Branch) hq]
  | branch id index span e cs =>
    refine ⟨_, .branch id index span e cs, ?_⟩
    simp only [plain, plainBranch, ending_of_map hq]
  | otherwise id cs => cases hq
  | inside id bs cs =>
    refine ⟨_, .inside id _ cs, ?_⟩
    simp only [plain, Outcome.andThen_of_stop (α := List Branch) hq]

theorem Splits.plain_of_ok (h : Splits p q r) (hq : (q.plain setting t).ending = .ok n) :
    ∃ p', Splits p' (q.plain setting t).tree (r.plain setting (q.plain setting t).table).tree ∧
      p.plain setting t =
        ⟨p', (n + ·) <$> (r.plain setting (q.plain setting t).table).ending,
          (r.plain setting (q.plain setting t).table).table⟩ := by
  cases h with
  | commands around c rest =>
    obtain ⟨passed, hc, rfl⟩ := ok_of_map hq
    refine ⟨_, .commands around _ _, ?_⟩
    simp only [plain, plainCommands, Outcome.andThen_of_ok hc]
  | branches id index b rest =>
    refine ⟨_, .branches id index _ _, ?_⟩
    simp only [plain, plainBranches, Outcome.andThen_of_ok (α := Branch) hq]
  | branch id index span e cs =>
    obtain ⟨held, hc, rfl⟩ := ok_of_map hq
    refine ⟨_, .branch id index span e _, ?_⟩
    simp only [plain, plainBranch, hc]
    rfl
  | otherwise id cs =>
    cases hq
    refine ⟨_, .otherwise id _, ?_⟩
    exact congrArg (Outcome.mk _ · _) (zero_add_map _).symm
  | inside id bs cs =>
    refine ⟨_, .inside id _ _, ?_⟩
    simp only [plain, Outcome.andThen_of_ok (α := List Branch) hq]

theorem Idle.plain_eq (h : Idle p) (setting : Setting) (t : SymbolTable) :
    p.plain setting t = ⟨p, .ok 0, t⟩ := by
  cases h <;> rfl

/-- A conditional mirrors its plain run if what is inside it does. -/
theorem mirrors_conducted {status : Status} {branches : List Branch} {otherwise : List Command}
    {id : Int} {bs : List Branch} {cs : List Command} {e : Except Setback Unit}
    (h : Conducted setting status branches otherwise id s bs cs v e) (hs : s.table.Reachable)
    (inner : Mirrors ((inside id branches otherwise).run setting (s.inside status.span id))
      ((inside id branches otherwise).plain setting s.table.contents))
    (conditional branch : Option Int) :
    Mirrors (runCommand setting (.conditional status branches otherwise id) s)
      (plainCommand setting (.conditional status branches otherwise id) conditional branch
        s.table.contents) := by
  obtain ⟨htree, hending, hcontents⟩ := inner
  have hfinish := mirrors_finish_empty (u := v.outOf (s.entered .conditional status.span))
    (left_conducted h hs).1 .conditional (.conditional status bs cs id) e
  have hleaving := h.leaving
  rw [h.tree] at htree
  rw [h.run, plainCommand, if_neg h.memory,
    if_neg fun he => h.hasBranch (List.isEmpty_iff.1 he)]
  generalize run setting _ _ = ran at hleaving htree hending hcontents
  simp only [plain] at htree hending hcontents
  generalize (plainBranches setting id 0 branches s.table.contents).andThen _ _ _ _ = out
    at htree hending hcontents ⊢
  -- Both runs of what is inside have come to the same, so the way out is the same.
  obtain ⟨⟨bs', cs'⟩, ending, table⟩ := out
  cases htree
  obtain rfl : ran.ending = ending := hending
  obtain rfl : ran.session.table.contents = table := hcontents
  unfold plainLeave
  generalize ran.ending = ending at hleaving ⊢
  generalize ran.session = u at hleaving ⊢
  cases hleaving with
  | stopped stop => exact hfinish
  | unwritable hrecord n =>
    dsimp only
    rw [hrecord]
    exact hfinish
  | @recorded record hrecord n =>
    dsimp only
    rw [hrecord]
    dsimp only
    rw [← contents_recordConditional id record u.table]
    exact hfinish

/-- The run of a part with its journals does what its plain run does. -/
theorem mirrors_run (setting : Setting) (p : Part) (s : Session) (hs : s.table.Reachable)
    (hp : p.Stands s) : Mirrors (p.run setting s) (p.plain setting s.table.contents) := by
  -- What a first part leaves is again reachable, and the second part stands there.
  induction p, s using run_induction setting with
  | @alone around c s h =>
    obtain ⟨htree, hending, hcontents⟩ := mirrors_alone h hs
    rw [hp.1, hp.2] at htree hending hcontents
    exact ⟨congrArg (command around) htree, congrArg (failureCount <$> ·) hending, hcontents⟩
  | conditional around h inner =>
    obtain ⟨htree, hending, hcontents⟩ := mirrors_conducted h hs (inner hs.openJournal rfl)
      (around.map Prod.fst) (around.map Prod.snd)
    exact ⟨congrArg (command around) htree, congrArg (failureCount <$> ·) hending, hcontents⟩
  | condition id index span e s =>
    have hbare := runCondition_bare setting index e s
    obtain ⟨ds, hs⟩ := runCondition_session setting index e s
    cases hc : runCondition setting index e s with
    | mk result u =>
    rw [hc] at hbare hs
    have hu : u.table.contents = s.table.contents := by
      rw [show u = _ from hs]
      rfl
    cases result with
    | error stop =>
      rw [run_condition_stop id span hc, plain, ← hbare]
      exact ⟨rfl, rfl, hu⟩
    | ok held =>
      rw [run_condition_ok id span hc, plain, ← hbare]
      exact ⟨rfl, rfl, hu⟩
  | @idle p s h =>
    obtain ⟨u, hr, hu⟩ := h.run_eq setting s
    have hcontents : u.table.contents = s.table.contents := by
      rcases hu with rfl | rfl <;> rfl
    rw [hr, h.plain_eq]
    exact ⟨rfl, rfl, hcontents⟩
  | @halted p q r s stop h first =>
    replace first := first hs (h.splits.stands hp)
    obtain ⟨p', htree, hplain⟩ := h.splits.plain_of_stop (first.ending.symm.trans h.first)
    rw [hplain]
    refine ⟨h.tree.unique ?_, h.ending, ?_⟩
    · rw [first.tree]
      exact htree
    · rw [h.session]
      exact first.contents
  | @continued p q r s n h first last =>
    replace first := first hs (h.splits.stands hp)
    replace last := last (q.reachable_run setting hs) (h.stands hp)
    rw [first.contents] at last
    obtain ⟨p', htree, hplain⟩ := h.splits.plain_of_ok (first.ending.symm.trans h.first)
    rw [hplain]
    refine ⟨h.tree.unique ?_, ?_, ?_⟩
    · rw [first.tree, last.tree]
      exact htree
    · rw [h.ending, last.ending]
    · rw [h.session]
      exact last.contents

/-- A part does the same wherever the same is in the table and the same is around it. -/
theorem run_same (setting : Setting) (p : Part) (hs : s.table.Reachable) (hp : p.Stands s)
    (hu : u.table.Reachable) (hp' : p.Stands u) (h : u.table.contents = s.table.contents) :
    (p.run setting u).tree = (p.run setting s).tree ∧
      (p.run setting u).session.table.contents = (p.run setting s).session.table.contents := by
  have here := mirrors_run setting p s hs hp
  have there := mirrors_run setting p u hu hp'
  rw [h] at there
  exact ⟨there.tree.trans here.tree.symm, there.contents.trans here.contents.symm⟩

end Part

end DialogScript
