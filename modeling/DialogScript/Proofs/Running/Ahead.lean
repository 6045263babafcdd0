import DialogScript.Proofs.Running.Placed

/-!
The commands ahead of one of a kind, in the order of a run: those that the run completes before it
comes to the first of the kind. A run that comes to none goes as if no kind were short of memory.
-/

namespace DialogScript

/-- Whether there is a command of a kind among some. -/
def hasKind (kind : CommandKind) (cs : List Command) : Bool := cs.any (·.kind? = some kind)

namespace Command

mutual

/-- The commands that a run completes before the first command of a kind, with where they stand. A
command that holds such a command is not completed, but commands in it may be. -/
def ahead (kind : CommandKind) (around : Option (Int × Int)) : Command → List Placed
  | conditional status branches otherwise id =>
    if hasKind kind (reached (conditional status branches otherwise id)) then
      if kind = .conditional then []
      else
        branchAhead kind id 0 branches ++
          if hasKind kind (branchReached branches) then []
          else allAhead kind (some (id, -1)) otherwise
    else [⟨conditional status branches otherwise id, around⟩]
  | action status a => if a.kind? = some kind then [] else [⟨action status a, around⟩]
  | forLoop status v option args body =>
    if kind = .forLoop then [] else [⟨forLoop status v option args body, around⟩]
  | whileLoop status condition body =>
    if kind = .whileLoop then [] else [⟨whileLoop status condition body, around⟩]

/-- The commands that a run of some commands completes before the first command of a kind. -/
def allAhead (kind : CommandKind) (around : Option (Int × Int)) : List Command → List Placed
  | [] => []
  | c :: rest =>
    ahead kind around c ++ if hasKind kind (reached c) then [] else allAhead kind around rest

/-- The commands in the branches of a conditional, from one index on. -/
def branchAhead (kind : CommandKind) (id : Int) (index : Nat) : List Branch → List Placed
  | [] => []
  | .mk _ _ commands :: rest =>
    allAhead kind (some (id, index)) commands ++
      if hasKind kind (allReached commands) then [] else branchAhead kind id (index + 1) rest

end

end Command

/-- The setting in which every check finds memory. -/
def Setting.supplied (setting : Setting) : Setting := { setting with exhausted := none }

variable {setting : Setting} {kind : CommandKind}

/-! ## Commands of a kind among some -/

theorem hasKind_append (cs ds : List Command) :
    hasKind kind (cs ++ ds) = (hasKind kind cs || hasKind kind ds) := List.any_append

theorem hasKind_cons_of_kind {c : Command} (h : c.kind? = some kind) (cs : List Command) :
    hasKind kind (c :: cs) = true := by
  simp [hasKind, h]

theorem hasKind_cons_of_ne {c : Command} (h : c.kind? ≠ some kind) (cs : List Command) :
    hasKind kind (c :: cs) = hasKind kind cs := by
  simp [hasKind, h]

theorem hasKind_eq_false {cs : List Command} :
    hasKind kind cs = false ↔ ∀ c ∈ cs, c.kind? ≠ some kind := by
  simp [hasKind]

/-! ## Commands ahead -/

/-- A command is reached first, and marking it changes nothing else that is reached. -/
theorem Command.reached_cons (c : Command) :
    ∃ nested, c.reached = c :: nested ∧ c.markInvalid.reached = c.markInvalid :: nested := by
  cases c <;> refine ⟨_, by rw [reached], ?_⟩ <;> rw [markInvalid, reached]

theorem Command.mem_reached (c : Command) : c ∈ c.reached := by
  obtain ⟨nested, h, -⟩ := c.reached_cons
  rw [h]
  exact List.mem_cons_self

theorem ahead_of_avoids {c : Command} (h : hasKind kind c.reached = false)
    (around : Option (Int × Int)) : c.ahead kind around = [⟨c, around⟩] := by
  have hself := hasKind_eq_false.1 h c (Command.mem_reached c)
  cases c with
  | action status a =>
    rw [Command.ahead]
    exact if_neg hself
  | forLoop status v option args body =>
    rw [Command.ahead]
    exact if_neg fun heq => hself (congrArg some heq.symm)
  | whileLoop status condition body =>
    rw [Command.ahead]
    exact if_neg fun heq => hself (congrArg some heq.symm)
  | conditional status branches otherwise id =>
    rw [Command.ahead, h]
    rfl

theorem ahead_of_kind {c : Command} (h : c.kind? = some kind) (around : Option (Int × Int)) :
    c.ahead kind around = [] := by
  cases c with
  | action status a =>
    rw [Command.ahead]
    exact if_pos h
  | forLoop status v option args body =>
    rw [Command.ahead]
    exact if_pos (Option.some.inj h).symm
  | whileLoop status condition body =>
    rw [Command.ahead]
    exact if_pos (Option.some.inj h).symm
  | conditional status branches otherwise id =>
    rw [Command.ahead, if_pos (Option.some.inj h).symm, if_pos]
    rw [Command.reached]
    exact hasKind_cons_of_kind h _

namespace Part

/-- The commands of a part that a run completes before the first command of a kind. -/
def ahead (kind : CommandKind) : Part → List Placed
  | command around c => c.ahead kind around
  | commands around cs => Command.allAhead kind around cs
  | branch id index b => Command.allAhead kind (some (id, index)) b.commands
  | branches id index bs => Command.branchAhead kind id index bs
  | otherwise id cs => Command.allAhead kind (some (id, -1)) cs
  | inside id bs cs =>
    Command.branchAhead kind id 0 bs ++
      if hasKind kind (Command.branchReached bs) then []
      else Command.allAhead kind (some (id, -1)) cs
  | condition .. | last _ => []

theorem Splits.ahead_eq {p q r : Part} (h : Splits p q r) :
    p.ahead kind = q.ahead kind ++ if hasKind kind q.reached then [] else r.ahead kind := by
  cases h with
  | branches id index b rest => cases b with | mk span e cs => rfl
  | _ => rfl

theorem Idle.ahead_eq {p : Part} (h : Idle p) : p.ahead kind = [] := by
  cases h <;> rfl

theorem ahead_conditional {status : Status} {branches : List Branch} {otherwise : List Command}
    {id : Int} (hk : kind ≠ .conditional)
    (h : hasKind kind (Command.conditional status branches otherwise id).reached = true)
    (around : Option (Int × Int)) :
    Command.ahead kind around (.conditional status branches otherwise id) =
      (inside id branches otherwise).ahead kind := by
  rw [Command.ahead, if_pos h, if_neg hk]
  rfl

end Part

/-- The commands that are completed with some commands ahead. -/
def Placed.allReached (ps : List Placed) : List Command := ps.flatMap fun p => p.command.reached

theorem Placed.allReached_append (ps qs : List Placed) :
    allReached (ps ++ qs) = allReached ps ++ allReached qs := List.flatMap_append

theorem allReached_of_avoids {c : Command} (h : hasKind kind c.reached = false)
    (around : Option (Int × Int)) : Placed.allReached (c.ahead kind around) = c.reached := by
  rw [ahead_of_avoids h]
  exact List.append_nil _

theorem Part.allReached_ahead {p : Part} (h : hasKind kind p.reached = false) :
    Placed.allReached (p.ahead kind) = p.reached := by
  induction p using Part.induction with
  | leaf around _ => exact allReached_of_avoids h around
  | conditional around => exact allReached_of_avoids h around
  | condition id index span e => rfl
  | idle hidle =>
    rw [hidle.ahead_eq, hidle.reached_eq]
    rfl
  | splits hsplits first last =>
    rw [hsplits.reached_eq, hasKind_append, Bool.or_eq_false_iff] at h
    rw [hsplits.ahead_eq, h.1, if_neg Bool.false_ne_true, Placed.allReached_append, first h.1,
      last h.2, hsplits.reached_eq]

/-! ## Where memory is found -/

theorem runAction_supplied (hx : setting.exhausted = some kind) (status : Status) {a : Action}
    (ha : a.kind? ≠ some kind) (s : Session) :
    runAction setting status a s = runAction setting.supplied status a s := by
  unfold runAction
  cases hk : a.kind? with
  | none => rfl
  | some other =>
    have hne : ¬setting.exhausted = some other := fun heq => ha (hk.trans (heq.symm.trans hx))
    dsimp only
    rw [if_neg hne]
    rfl

theorem runLoop_supplied (hx : setting.exhausted = some kind) {other : CommandKind}
    (hk : other ≠ kind) (c : Command) (s : Session) :
    runLoop setting other c s = runLoop setting.supplied other c s := by
  have hne : ¬setting.exhausted = some other :=
    fun heq => hk (Option.some.inj (heq.symm.trans hx))
  unfold runLoop
  rw [if_neg hne]
  rfl

theorem runCommand_supplied_leaf (hx : setting.exhausted = some kind) {c : Command}
    (hc : c.kind? ≠ some .conditional) (h : c.kind? ≠ some kind) (s : Session) :
    runCommand setting c s = runCommand setting.supplied c s := by
  cases c with
  | action status a =>
    rw [runCommand, runCommand]
    exact runAction_supplied hx status h s
  | forLoop status v option args body =>
    rw [runCommand, runCommand]
    exact runLoop_supplied hx (fun heq => h (congrArg some heq)) _ s
  | whileLoop status condition body =>
    rw [runCommand, runCommand]
    exact runLoop_supplied hx (fun heq => h (congrArg some heq)) _ s
  | conditional status branches otherwise id => exact absurd rfl hc

/-- A run that reaches no command of the kind that finds no memory. -/
theorem Part.run_supplied (hx : setting.exhausted = some kind) (p : Part) (s : Session)
    (h : hasKind kind p.reached = false) : p.run setting s = p.run setting.supplied s := by
  induction p using Part.induction generalizing s with
  | @leaf around c hc =>
    rw [reached, reached_leaf hc, hasKind_eq_false, List.forall_mem_singleton] at h
    rw [run, runCommand_supplied_leaf hx hc h]
    rfl
  | @conditional around status branches otherwise id inner =>
    rw [reached, Command.reached, hasKind_eq_false, List.forall_mem_cons, ← hasKind_eq_false] at h
    obtain ⟨hself, h⟩ := h
    have hne : ¬setting.exhausted = some .conditional := fun heq => hself (heq.symm.trans hx)
    have hrun : runCommand setting (.conditional status branches otherwise id) s =
        runCommand setting.supplied (.conditional status branches otherwise id) s := by
      rw [runCommand, runCommand, if_neg hne,
        if_neg (show ¬setting.supplied.exhausted = some .conditional from
          (Option.some_ne_none _).symm)]
      by_cases hb : branches.isEmpty = true
      · rw [if_pos hb, if_pos hb]
      · rw [if_neg hb] at h
        rw [if_neg hb, if_neg hb]
        exact congrArg (leaveConditional status id _) (run_inside_inj (inner _ h))
    rw [run, hrun]
    rfl
  | condition id index span e => rfl
  | idle hidle => cases hidle <;> rfl
  | splits hsplits first last =>
    rw [hsplits.reached_eq, hasKind_append, Bool.or_eq_false_iff] at h
    exact hsplits.run_congr (first s h.1) fun u => last u h.2

theorem runCommand_supplied (hx : setting.exhausted = some kind) (c : Command) (s : Session)
    (h : hasKind kind c.reached = false) :
    runCommand setting c s = runCommand setting.supplied c s :=
  Part.run_command_inj (Part.run_supplied hx (.command none c) s h)

end DialogScript
