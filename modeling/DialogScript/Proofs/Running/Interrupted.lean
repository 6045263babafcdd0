import DialogScript.Proofs.Running.Ahead
import DialogScript.Proofs.Running.Completed

/-!
Runs that a lack of memory has ended. The commands that are visited before the one that finds no
memory have been run to their end, or they are conditionals around it: these are marked as it is.
What comes after it is left as it was.
-/

namespace DialogScript

namespace Visit

/-- Whether a visited command is run to its end. -/
def completes (setting : Setting) (v : Visit) : Bool := (v.ran setting).ending.isOk

/-- A visited command is ended by what another one in it has met, and marked. -/
structure Fails (setting : Setting) (w v : Visit) : Prop where
  inside : v ∈ visits setting w.command w.session
  ended : w.completes setting = false
  marked : (w.tree setting).valid = false

variable {setting : Setting} {v : Visit}

theorem completes_of_ok {passed : Bool} (h : (v.ran setting).ending = .ok passed) :
    v.completes setting = true := by
  rw [completes, h]
  rfl

theorem not_completes {stop : Stop} (h : (v.ran setting).ending = .error stop) :
    v.completes setting = false := by
  rw [completes, h]
  rfl

end Visit

/-- Visits of a run in which a command of a kind has found no memory, as the last one visited: the
commands of a tree that a run reaches, in order, and those of the tree that is left. Each command
before the last is run to its end or fails with it; those that are run to their end are the ones in
some commands ahead. The commands after the last are not touched. -/
structure Interrupted (setting : Setting) (kind : CommandKind) (ahead : List Placed)
    (earlier : List Visit) (last : Visit) (rest : List Command) (vs : List Visit)
    (before after : List Command) : Prop where
  visits : vs = earlier ++ [last]
  commands : before = earlier.map Visit.command ++ last.command :: rest
  trees : after = earlier.map (Visit.tree setting) ++ last.command.markInvalid :: rest
  isKind : last.command.kind? = some kind
  others : ∀ w ∈ earlier, w.command.kind? ≠ some kind
  settled : ∀ w ∈ earlier, w.completes setting = true ∨ w.Fails setting last
  completed : (earlier.filter (Visit.completes setting)).map Visit.command =
    Placed.allReached ahead

variable {setting : Setting} {kind : CommandKind} {s : Session}

/-! ## Commands that find no memory -/

theorem Command.runsAlone_of_exhausted {c : Command} (hx : setting.exhausted = some kind)
    (hc : c.kind? = some kind) : c.RunsAlone setting := by
  cases c with
  | conditional status branches otherwise id =>
    cases hc
    exact .inl hx
  | _ => trivial

/-- A command of the kind that finds no memory is ended somewhere in its check, and nothing is run
in it. -/
theorem runCommand_of_exhausted {c : Command} (hx : setting.exhausted = some kind)
    (hc : c.kind? = some kind) : runCommand setting c s = s.runOut setting kind c := by
  cases c with
  | action status a =>
    have hk : a.kind? = some kind := hc
    simp only [runCommand, runAction, hk, hx, if_true]
  | forLoop status v option args body =>
    cases hc
    rw [runCommand]
    exact if_pos hx
  | whileLoop status condition body =>
    cases hc
    rw [runCommand]
    exact if_pos hx
  | conditional status branches otherwise id =>
    cases hc
    rw [runCommand]
    exact if_pos hx

/-- No command of the kind that finds no memory is run to its end. -/
theorem Ended.avoids {vs : List Visit} {before after : List Command}
    (h : Ended setting vs before after) (hx : setting.exhausted = some kind) :
    ∀ v ∈ vs, v.command.kind? ≠ some kind ∧ v.completes setting = true := by
  intro v hv
  obtain ⟨passed, hp⟩ := h.ended v hv
  refine ⟨fun hk => ?_, Visit.completes_of_ok hp⟩
  rw [Visit.ran, runCommand_of_exhausted hx hk] at hp
  cases hp

theorem Ended.filter_completes {vs : List Visit} {before after : List Command}
    (h : Ended setting vs before after) : vs.filter (Visit.completes setting) = vs := by
  refine List.filter_eq_self.2 fun v hv => ?_
  obtain ⟨passed, hp⟩ := h.ended v hv
  exact Visit.completes_of_ok hp

/-- Only a command of that kind finds none, among those in which no other is run. -/
theorem exhausted_of_alone {c : Command} {m : Shortage} (hc : c.RunsAlone setting)
    (h : (runCommand setting c s).ending = .error (.outOfMemory m)) :
    ∃ kind, setting.exhausted = some kind ∧ c.kind? = some kind := by
  have hran := runCommand_alone hc s
  generalize runCommand setting c s = ran at h hran
  cases hran with
  | kindless hk => cases h
  | @concluded kind ws ds r hk hds hr =>
    cases hr with
    | noMemory hx => exact ⟨kind, hx, hk⟩
    | _ => cases h

theorem kind?_of_outOfMemory (hx : setting.exhausted = some kind) {c : Command} {m : Shortage}
    (h : (runCommand setting c s).ending = .error (.outOfMemory m)) (hc : c.RunsAlone setting) :
    c.kind? = some kind := by
  obtain ⟨kind', hx', hk⟩ := exhausted_of_alone hc h
  exact hk.trans (hx'.symm.trans hx)

/-! ## Interrupted runs -/

namespace Interrupted

variable {ahead ps : List Placed} {earlier vs us : List Visit} {last w : Visit}
  {rest before after bs cs : List Command}

/-- The commands that are left as they were are reached in the tree. -/
theorem mem_rest (h : Interrupted setting kind ahead earlier last rest vs before after)
    {c : Command} (hc : c ∈ rest) : c ∈ before := by
  rw [h.commands]
  exact List.mem_append_right _ (List.mem_cons_of_mem _ hc)

/-- The last command visited is not run to its end, so only earlier ones are. -/
theorem filter_completes (h : Interrupted setting kind ahead earlier last rest vs before after)
    (hx : setting.exhausted = some kind) :
    vs.filter (Visit.completes setting) = earlier.filter (Visit.completes setting) := by
  have hran : runCommand setting last.command last.session =
      last.session.runOut setting kind last.command := runCommand_of_exhausted hx h.isKind
  have hlast : last.completes setting = false := Visit.not_completes (congrArg Ran.ending hran)
  rw [h.visits, List.filter_append, List.filter_cons_of_neg (by simp [hlast]), List.filter_nil,
    List.append_nil]

/-- The command that finds no memory. What is reached in it after that is left as it was. -/
theorem here {c : Command} {nested : List Command} (hc : c.kind? = some kind) :
    Interrupted setting kind [] [] ⟨c, s⟩ nested [⟨c, s⟩] (c :: nested)
      (c.markInvalid :: nested) where
  visits := rfl
  commands := rfl
  trees := rfl
  isKind := hc
  others _ h := absurd h List.not_mem_nil
  settled _ h := absurd h List.not_mem_nil
  completed := rfl

/-- After commands that have been run to their end. -/
theorem afterEnded (h : Interrupted setting kind ahead earlier last rest vs before after)
    (hx : setting.exhausted = some kind) (h' : Ended setting us bs cs)
    (hps : Placed.allReached ps = bs) :
    Interrupted setting kind (ps ++ ahead) (us ++ earlier) last rest (us ++ vs) (bs ++ before)
      (cs ++ after) where
  visits := by rw [h.visits, List.append_assoc]
  commands := by rw [h.commands, ← h'.commands, List.map_append, List.append_assoc]
  trees := by rw [h.trees, ← h'.trees, List.map_append, List.append_assoc]
  isKind := h.isKind
  others w hw := (List.mem_append.1 hw).elim (fun hw => (h'.avoids hx w hw).1) (h.others w)
  settled w hw := (List.mem_append.1 hw).elim (fun hw => .inl (h'.avoids hx w hw).2) (h.settled w)
  completed := by
    rw [List.filter_append, List.map_append, h'.filter_completes, h.completed, h'.commands, ← hps,
      Placed.allReached_append]

/-- Before commands that are not run. -/
theorem beforeOthers (h : Interrupted setting kind ahead earlier last rest vs before after)
    (others : List Command) :
    Interrupted setting kind ahead earlier last (rest ++ others) vs (before ++ others)
      (after ++ others) where
  visits := h.visits
  commands := by rw [h.commands, List.append_assoc, List.cons_append]
  trees := by rw [h.trees, List.append_assoc, List.cons_append]
  isKind := h.isKind
  others := h.others
  settled := h.settled
  completed := h.completed

/-- In a command around. -/
theorem within (h : Interrupted setting kind ahead earlier last rest vs before after)
    (hk : w.command.kind? ≠ some kind)
    (hv : DialogScript.visits setting w.command w.session = w :: vs)
    (hended : w.completes setting = false) (hmarked : (w.tree setting).valid = false) :
    Interrupted setting kind ahead (w :: earlier) last rest (w :: vs) (w.command :: before)
      (w.tree setting :: after) where
  visits := by rw [h.visits, List.cons_append]
  commands := by rw [h.commands, List.map_cons, List.cons_append]
  trees := by rw [h.trees, List.map_cons, List.cons_append]
  isKind := h.isKind
  others := List.forall_mem_cons.2 ⟨hk, h.others⟩
  settled := by
    have hinside : last ∈ w :: vs := by
      rw [h.visits]
      exact List.mem_cons_of_mem _ (List.mem_append_right _ (List.mem_singleton_self _))
    exact List.forall_mem_cons.2 ⟨.inr ⟨hv ▸ hinside, hended, hmarked⟩, h.settled⟩
  completed := by rw [List.filter_cons_of_neg (by simp [hended]), h.completed]

end Interrupted

/-- A run in which some command of a kind has found no memory, after some commands ahead. -/
def CutShort (setting : Setting) (kind : CommandKind) (ahead : List Placed) (vs : List Visit)
    (before after : List Command) : Prop :=
  ∃ earlier last rest, Interrupted setting kind ahead earlier last rest vs before after

/-- The command that has found no memory is among those that a run reaches. -/
theorem CutShort.hasKind {ahead : List Placed} {vs : List Visit} {before after : List Command}
    (h : CutShort setting kind ahead vs before after) : hasKind kind before = true := by
  obtain ⟨_, _, _, h⟩ := h
  rw [h.commands, hasKind_append, hasKind_cons_of_kind h.isKind, Bool.or_true]

theorem Ended.hasKind {vs : List Visit} {before after : List Command}
    (h : Ended setting vs before after) (hx : setting.exhausted = some kind) :
    hasKind kind before = false := by
  rw [hasKind_eq_false, ← h.commands]
  intro c hc
  obtain ⟨v, hv, rfl⟩ := List.mem_map.1 hc
  exact (h.avoids hx v hv).1

/-! ## Runs that a lack of memory has ended -/

/-- A command of the kind is cut short at itself. -/
theorem cutShort_here (hx : setting.exhausted = some kind) {c : Command}
    (around : Option (Int × Int)) (hc : c.kind? = some kind) :
    CutShort setting kind (c.ahead kind around) (visits setting c s) c.reached
      (runCommand setting c s).tree.reached := by
  obtain ⟨nested, hreached, hmarked⟩ := c.reached_cons
  rw [runCommand_of_exhausted hx hc, visits_alone (Command.runsAlone_of_exhausted hx hc), hreached,
    ahead_of_kind hc]
  show CutShort setting kind _ _ _ c.markInvalid.reached
  rw [hmarked]
  exact ⟨_, _, _, .here hc⟩

/-- A conditional is cut short where what is inside it is. It fails with that, and so it is
marked. -/
theorem cutShort_around {status : Status} {branches bs : List Branch} {otherwise cs : List Command}
    {id : Int} {m : Shortage} {v : Session} {e : Except Setback Unit}
    (h : Conducted setting status branches otherwise id s bs cs v e) (hk : kind ≠ .conditional)
    (hended : (runCommand setting (.conditional status branches otherwise id) s).ending =
      .error (.outOfMemory m))
    (inner : CutShort setting kind ((Part.inside id branches otherwise).ahead kind)
      ((Part.inside id branches otherwise).visits setting (s.inside status.span id))
      (Part.inside id branches otherwise).reached (Part.inside id bs cs).reached)
    (around : Option (Int × Int)) :
    CutShort setting kind (Command.ahead kind around (.conditional status branches otherwise id))
      (visits setting (.conditional status branches otherwise id) s)
      (Command.reached (.conditional status branches otherwise id))
      (runCommand setting (.conditional status branches otherwise id) s).tree.reached := by
  have hself : (Command.conditional status branches otherwise id).kind? ≠ some kind :=
    fun heq => hk (Option.some.inj heq).symm
  obtain ⟨-, -, -, -, htree⟩ := h.outOfMemory hended
  have hroot : Visit.tree setting ⟨.conditional status branches otherwise id, s⟩ =
      .conditional { status with valid := false } bs cs id := htree
  have hreached := Part.reached_conditional h.hasBranch status otherwise id
  have hreach : hasKind kind (Command.conditional status branches otherwise id).reached = true := by
    rw [hreached, hasKind_cons_of_ne hself]
    exact inner.hasKind
  obtain ⟨earlier, last, rest, inner⟩ := inner
  have whole := inner.within (w := ⟨.conditional status branches otherwise id, s⟩) hself h.visits
    (Visit.not_completes hended) (by rw [hroot]; rfl)
  rw [hroot] at whole
  rw [Part.ahead_conditional hk hreach, h.visits, hreached, htree,
    Part.reached_conditional h.hasBranch']
  exact ⟨_, _, _, whole⟩

theorem Part.cutShort_run (hx : setting.exhausted = some kind) (p : Part) (s : Session)
    {m : Shortage} (h : (p.run setting s).ending = .error (.outOfMemory m)) :
    CutShort setting kind (p.ahead kind) (p.visits setting s) p.reached
      (p.run setting s).tree.reached := by
  induction p, s using run_induction setting generalizing m with
  | alone around s halone =>
    exact cutShort_here hx around (kind?_of_outOfMemory hx (ending_of_map h) halone)
  | conditional around hconducted inner =>
    have hk : kind ≠ .conditional := fun heq => hconducted.memory (hx.trans (congrArg some heq))
    obtain ⟨m', hm, -⟩ := hconducted.outOfMemory (ending_of_map h)
    replace inner := inner hm
    rw [hconducted.tree] at inner
    exact cutShort_around hconducted hk (ending_of_map h) inner around
  | condition id index span e s =>
    -- A condition can break down, and finds memory.
    obtain ⟨b, hb⟩ := stop_condition id span h
    cases hb
  | idle s hidle =>
    rw [hidle.ending_eq] at h
    cases h
  | @halted p q r s stop hhalted first =>
    -- The command is in the first part; the second is among what is not touched.
    obtain rfl : stop = .outOfMemory m := Except.error.inj (hhalted.ending.symm.trans h)
    have hin := (first hhalted.first).hasKind
    obtain ⟨earlier, last, others, first⟩ := first hhalted.first
    rw [hhalted.splits.ahead_eq, if_pos hin, List.append_nil, hhalted.visits,
      hhalted.splits.reached_eq, hhalted.tree.reached_eq]
    exact ⟨_, _, _, first.beforeOthers _⟩
  | @continued p q r s n hcontinued first last =>
    -- The first part has reached no command of the kind, so what it has run is all ahead.
    rw [hcontinued.ending] at h
    have ended := q.ended_run setting s hcontinued.first
    have hout := ended.hasKind hx
    obtain ⟨earlier, w, others, last⟩ := last (ending_of_map h)
    rw [hcontinued.splits.ahead_eq, hout, hcontinued.visits, hcontinued.splits.reached_eq,
      hcontinued.tree.reached_eq]
    exact ⟨_, _, _, last.afterEnded hx ended (Part.allReached_ahead hout)⟩

theorem cutShort_command (hx : setting.exhausted = some kind) (c : Command)
    (around : Option (Int × Int)) (s : Session) (m : Shortage)
    (h : (runCommand setting c s).ending = .error (.outOfMemory m)) :
    CutShort setting kind (c.ahead kind around) (visits setting c s) c.reached
      (runCommand setting c s).tree.reached :=
  Part.cutShort_run hx (.command around c) s (congrArg (failureCount <$> ·) h)

/-! ## Whether a run reaches such a command -/

/-- How a run ends tells whether a command of a kind is among those that it is to reach. -/
structure Signals {β : Type} (kind : CommandKind) (ending : Except Stop β)
    (reached : List Command) : Prop where
  ok : ∀ n, ending = .ok n → hasKind kind reached = false
  outOfMemory : ∀ m, ending = .error (.outOfMemory m) → hasKind kind reached = true

theorem Part.signals_run (hx : setting.exhausted = some kind) (p : Part) (s : Session) :
    Signals kind (p.run setting s).ending p.reached :=
  ⟨fun _ h => (p.ended_run setting s h).hasKind hx, fun _ h => (p.cutShort_run hx s h).hasKind⟩

theorem signals_command (hx : setting.exhausted = some kind) (c : Command) (s : Session) :
    Signals kind (runCommand setting c s).ending c.reached :=
  ⟨fun passed h => (ended_command setting c s passed h).hasKind hx,
    fun m h => (cutShort_command hx c none s m h).hasKind⟩

end DialogScript
