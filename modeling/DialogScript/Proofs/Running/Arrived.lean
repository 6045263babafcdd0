import DialogScript.Proofs.Running.Interrupted

/-!
The table that a lack of memory leaves. It is the one that the commands ahead leave, run one after
another where memory is found, each where it stands: what was completed is kept at every depth, and
nothing is written by a conditional around.
-/

namespace DialogScript

/-- The session in which a placed command is run on its own. -/
def Placed.start (p : Placed) (t : SymbolTable) : Session :=
  .bare t (p.around.map Prod.fst) (p.around.map Prod.snd)

/-- Runs placed commands one after another: the table that they leave. -/
def runPlaced (setting : Setting) (t : SymbolTable) : List Placed → SymbolTable
  | [] => t
  | p :: rest => runPlaced setting (runCommand setting p.command (p.start t)).session.table rest

variable {setting : Setting} {kind : CommandKind} {t u : SymbolTable}

/-! ## The table ahead -/

/-- Placed commands run one after another, from a table, leave some contents. -/
structure Arrives (setting : Setting) (t : SymbolTable) (ps : List Placed) (out : SymbolTable) :
    Prop where
  contents : (runPlaced setting t ps).contents = out
  journals : (runPlaced setting t ps).journals = t.journals
  reachable : (runPlaced setting t ps).Reachable

theorem runPlaced_append (ps qs : List Placed) :
    runPlaced setting t (ps ++ qs) = runPlaced setting (runPlaced setting t ps) qs := by
  induction ps generalizing t with
  | nil => rfl
  | cons p rest ih => exact ih

namespace Arrives

variable {ps qs : List Placed} {out out' : SymbolTable}

theorem nil (ht : t.Reachable) : Arrives setting t [] t.contents := ⟨rfl, rfl, ht⟩

theorem append (h : Arrives setting t ps out)
    (h' : Arrives setting (runPlaced setting t ps) qs out') :
    Arrives setting t (ps ++ qs) out' := by
  constructor <;> rw [runPlaced_append]
  · exact h'.contents
  · exact h'.journals.trans h.journals
  · exact h'.reachable

end Arrives

/-- A plain run that has not broken down. -/
def Orderly {β : Type} (ending : Except Stop β) : Prop := ∀ b, ending ≠ .error (.broken b)

theorem orderly_of_map {β γ : Type} {f : β → γ} {ending : Except Stop β}
    (h : Orderly (f <$> ending)) : Orderly ending := by
  rintro b rfl
  exact h b rfl

section

variable (hx : setting.exhausted = some kind) {s : Session} (ht : t.Reachable)
  (hs : s.table.Reachable) (hsame : t.contents = s.table.contents)

include hx ht hs hsame

/-- A command that avoids the kind is completed, as where memory is found. -/
theorem arrives_avoiding {c : Command} {around : Option (Int × Int)}
    (hp : (Part.command around c).Stands s) (h : hasKind kind c.reached = false) :
    Arrives setting.supplied t (c.ahead kind around)
      (runCommand setting c s).session.table.contents := by
  obtain ⟨-, hcontents⟩ := Part.run_same setting (.command around c)
    (u := Placed.start ⟨c, around⟩ t) hs hp ht ⟨rfl, rfl⟩ hsame
  have closed := closed_command setting c (s := Placed.start ⟨c, around⟩ t) ht
  have same := runCommand_supplied hx c (Placed.start ⟨c, around⟩ t) h
  rw [ahead_of_avoids h]
  refine ⟨?_, ?_, ?_⟩ <;> rw [runPlaced, ← same]
  · exact hcontents
  · exact closed.journals
  · exact closed.reachable

/-- A command that finds no memory leaves the table as it is. -/
theorem arrives_refused {c : Command} (h : c.kind? = some kind) (around : Option (Int × Int)) :
    Arrives setting.supplied t (c.ahead kind around)
      (runCommand setting c s).session.table.contents := by
  have halone := Command.runsAlone_of_exhausted hx h
  have hended : (runCommand setting c s).ending ≠ .ok true := by
    rw [runCommand_of_exhausted hx h]
    exact nofun
  rw [ahead_of_kind h, ((runCommand_alone halone s).atomic hs hended).1, ← hsame]
  exact .nil ht

end

/-- A part that does not break down leaves the table that the commands ahead leave. -/
theorem Part.arrives_run (hx : setting.exhausted = some kind) (p : Part) (s : Session)
    (ht : t.Reachable) (hs : s.table.Reachable) (hsame : t.contents = s.table.contents)
    (hp : p.Stands s) (h : Orderly (p.run setting s).ending) :
    Arrives setting.supplied t (p.ahead kind) (p.run setting s).session.table.contents := by
  induction p, s using run_induction setting generalizing t with
  | @alone around c s halone =>
    cases he : (runCommand setting c s).ending with
    | ok passed => exact arrives_avoiding hx ht hs hsame hp ((signals_command hx c s).ok passed he)
    | error stop =>
      cases stop with
      | broken b => exact absurd he (orderly_of_map h b)
      | outOfMemory m =>
        exact arrives_refused hx ht hs hsame (kind?_of_outOfMemory hx he halone) around
  | @conditional around status branches otherwise id s bs cs v r hconducted inner =>
    have signals := signals_command hx (.conditional status branches otherwise id) s
    cases he : (runCommand setting (.conditional status branches otherwise id) s).ending with
    | ok passed => exact arrives_avoiding hx ht hs hsame hp (signals.ok passed he)
    | error stop =>
      cases stop with
      | broken b => exact absurd he (orderly_of_map h b)
      | outOfMemory m =>
        -- It has met the lack of memory inside, and what was written there is kept.
        have hk : kind ≠ .conditional := fun heq => hconducted.memory (hx.trans (congrArg some heq))
        obtain ⟨m', hm, -, rfl, -⟩ := hconducted.outOfMemory he
        show Arrives setting.supplied t (Command.ahead kind around _)
          (runCommand setting _ s).session.table.contents
        rw [ahead_conditional hk (signals.outOfMemory m he), contents_conducted hconducted hs]
        refine inner ht hs.openJournal hsame rfl fun b hb => ?_
        rw [hm] at hb
        cases hb
  | condition id index span e s =>
    rw [contents_condition, ← hsame]
    exact .nil ht
  | idle s hidle =>
    rw [(hidle.kept setting s).2, hidle.ahead_eq, ← hsame]
    exact .nil ht
  | @halted p q r s stop hhalted first =>
    -- Memory has run out in the first part, so nothing of the second is ahead.
    have horderly : Orderly (q.run setting s).ending := by
      rw [hhalted.first, ← hhalted.ending]
      exact fun b hb => h b hb
    replace first := first ht hs hsame (hhalted.splits.stands hp) horderly
    cases stop with
    | broken b => exact absurd hhalted.first (horderly b)
    | outOfMemory m =>
      rw [hhalted.splits.ahead_eq, if_pos ((q.signals_run hx s).outOfMemory m hhalted.first),
        List.append_nil, hhalted.session]
      exact first
  | @continued p q r s n hcontinued first last =>
    rw [hcontinued.ending] at h
    have horderly : Orderly (q.run setting s).ending := by
      rw [hcontinued.first]
      exact fun b hb => by cases hb
    replace first := first ht hs hsame (hcontinued.splits.stands hp) horderly
    rw [hcontinued.splits.ahead_eq, (q.signals_run hx s).ok n hcontinued.first, hcontinued.session]
    exact first.append (last first.reachable (q.reachable_run setting hs) first.contents
      (hcontinued.stands hp) (orderly_of_map h))

/-- A run that does not break down leaves the table that the commands ahead leave, run one after
another where memory is found. -/
theorem table_runCommand (hx : setting.exhausted = some kind) {c : Command} {s : Session}
    {around : Option (Int × Int)} (hs : s.table.Reachable)
    (hb : s.around.conditional = around.map Prod.fst ∧ s.around.branch = around.map Prod.snd)
    (h : Orderly (runCommand setting c s).ending) :
    (runCommand setting c s).session.table =
      runPlaced setting.supplied s.table (c.ahead kind around) := by
  have horderly : Orderly ((Part.command around c).run setting s).ending := by
    rintro b hb
    exact h b (ending_of_map hb)
  have arrives := Part.arrives_run hx (.command around c) s hs hs rfl hb horderly
  exact SymbolTable.eq_of_contents arrives.contents.symm
    ((closed_command setting c hs).journals.trans arrives.journals.symm)

end DialogScript
