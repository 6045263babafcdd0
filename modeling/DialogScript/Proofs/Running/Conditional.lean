import DialogScript.Proofs.Running.Completed
import DialogScript.Proofs.Running.Plain

/-!
What a conditional does to the table. Whatever fails in it, it runs every command in it once and in
order, each in its own branch, and then sets its record; nothing of this is taken back when the
conditional itself fails, or one around it does.
-/

namespace DialogScript

/-- The commands in some branches with the index of the branch of each, from one index on. -/
def nestedFrom (index : Nat) : List Branch → List (Int × Command)
  | [] => []
  | b :: rest => b.commands.map ((index : Int), ·) ++ nestedFrom (index + 1) rest

/-- The commands in a conditional with the index of the branch of each, minus one in the last
alternative. -/
def nested (branches : List Branch) (otherwise : List Command) : List (Int × Command) :=
  nestedFrom 0 branches ++ otherwise.map (-1, ·)

/-- Runs commands one after another, each in its branch of a conditional: the commands with their
flags, and the table. -/
def runEach (setting : Setting) (id : Int) (t : SymbolTable) :
    List (Int × Command) → List (Int × Command) × SymbolTable
  | [] => ([], t)
  | (branch, c) :: rest =>
    let ran := runCommand setting c (.bare t (some id) (some branch))
    let others := runEach setting id ran.session.table rest
    ((branch, ran.tree) :: others.1, others.2)

/-- Commands run one after another leave the commands and the contents that a plain run leaves. -/
structure Sequence (t : SymbolTable) (found : List (Int × Command) × SymbolTable)
    (trees : List (Int × Command)) (contents : SymbolTable) : Prop where
  trees : found.1 = trees
  contents : found.2.contents = contents
  journals : found.2.journals = t.journals
  reachable : found.2.Reachable

variable {setting : Setting} {id : Int} {t : SymbolTable} {s : Session}

theorem runEach_append (first second : List (Int × Command)) :
    runEach setting id t (first ++ second) =
      ((runEach setting id t first).1 ++
        (runEach setting id (runEach setting id t first).2 second).1,
        (runEach setting id (runEach setting id t first).2 second).2) := by
  induction first generalizing t with
  | nil => rfl
  | cons entry rest ih =>
    simp only [List.cons_append, runEach]
    rw [ih]

theorem Sequence.append {first second trees trees' : List (Int × Command)} {u v : SymbolTable}
    (h : Sequence t (runEach setting id t first) trees u)
    (h' : Sequence (runEach setting id t first).2
      (runEach setting id (runEach setting id t first).2 second) trees' v) :
    Sequence t (runEach setting id t (first ++ second)) (trees ++ trees') v := by
  rw [runEach_append]
  exact ⟨by rw [h.trees, h'.trees], h'.contents, h'.journals.trans h.journals, h'.reachable⟩

/-- The commands that stand in a part of a conditional directly, with the index of the branch of
each. -/
def Part.entries (p : Part) : List (Int × Command) :=
  p.direct.filterMap fun x => x.around.map fun place => (place.2, x.command)

theorem Part.direct_branches (index : Nat) (bs : List Branch) :
    (Part.branches id index bs).direct =
      (nestedFrom index bs).map fun e => ⟨e.2, some (id, e.1)⟩ := by
  induction bs generalizing index with
  | nil => rfl
  | cons b rest ih =>
    rw [(Splits.branches id index b rest).direct_eq, ih, nestedFrom, List.map_append, List.map_map]
    rfl

theorem Part.direct_inside (bs : List Branch) (cs : List Command) :
    (Part.inside id bs cs).direct = (nested bs cs).map fun e => ⟨e.2, some (id, e.1)⟩ := by
  rw [(Splits.inside id bs cs).direct_eq, direct_branches, nested, List.map_append, List.map_map]
  rfl

theorem Part.entries_inside (bs : List Branch) (cs : List Command) :
    (Part.inside id bs cs).entries = nested bs cs := by
  rw [entries, direct_inside, List.filterMap_map]
  exact List.filterMap_some

theorem sequence_command (setting : Setting) (around : Option (Int × Int)) (c : Command)
    (ht : t.Reachable) (hs : s.table.Reachable) (hsame : t.contents = s.table.contents)
    (hid : s.around.conditional = some id) (hp : (Part.command around c).Stands s) :
    Sequence t (runEach setting id t (Part.command around c).entries)
      ((Part.command around c).run setting s).tree.entries
      ((Part.command around c).run setting s).session.table.contents := by
  obtain ⟨hconditional, hbranch⟩ := hp
  cases around with
  | none => cases hid.symm.trans hconditional
  | some place =>
    obtain ⟨id', branch⟩ := place
    obtain rfl : id = id' := Option.some.inj (hid.symm.trans hconditional)
    -- On its own, the command does what it does in the conditional.
    obtain ⟨htree, hcontents⟩ := Part.run_same setting (.command (some (id, branch)) c)
      (u := .bare t (some id) (some branch)) hs ⟨hid, hbranch⟩ ht ⟨rfl, rfl⟩ hsame
    have closed := closed_command setting c (s := .bare t (some id) (some branch)) ht
    exact ⟨congrArg Part.entries htree, hcontents, closed.journals, closed.reachable⟩

theorem sequence_run (setting : Setting) (p : Part) (s : Session) {n : Nat} (ht : t.Reachable)
    (hs : s.table.Reachable) (hsame : t.contents = s.table.contents)
    (hid : s.around.conditional = some id) (hp : p.Stands s)
    (h : (p.run setting s).ending = .ok n) :
    Sequence t (runEach setting id t p.entries) (p.run setting s).tree.entries
      (p.run setting s).session.table.contents := by
  induction p, s using Part.run_induction setting generalizing t n with
  | alone around s _ => exact sequence_command setting around _ ht hs hsame hid hp
  | conditional around _ _ => exact sequence_command setting around _ ht hs hsame hid hp
  | condition id' index span e s =>
    rw [Part.tree_condition, Part.contents_condition]
    exact ⟨rfl, hsame, rfl, ht⟩
  | @idle p s hidle =>
    obtain ⟨htree, hcontents⟩ := hidle.kept setting s
    rw [htree, hcontents, Part.entries, hidle.direct_eq]
    exact ⟨rfl, hsame, rfl, ht⟩
  | halted hhalted first =>
    rw [hhalted.ending] at h
    cases h
  | @continued p q r s n hcontinued first last =>
    rw [hcontinued.ending] at h
    obtain ⟨more, hmore, -⟩ := ok_of_map h
    replace first := first ht hs hsame hid (hcontinued.splits.stands hp) hcontinued.first
    have hid' := (q.steady setting s).conditional.trans hid
    replace last := last first.reachable (q.reachable_run setting hs) first.contents hid'
      (hcontinued.stands hp) hmore
    have hentries {p q r : Part} (h : Part.Splits p q r) : p.entries = q.entries ++ r.entries := by
      rw [Part.entries, h.direct_eq, List.filterMap_append]
      rfl
    rw [hentries hcontinued.splits, hentries hcontinued.tree, hcontinued.session]
    exact first.append last

/-- A conditional with a branch, run to its end: the table is the one left by running each command
in it once and in order, with the number of the conditional and the index of its branch around it,
and setting the record of the conditional then. So it is however the commands end, and at every
depth: the table is also the one of a plain run, which never takes back what a command has written
that passed, nor a record. Where the run stands is as it was before the conditional. -/
theorem conditional_effect (setting : Setting) (status : Status) {branches : List Branch}
    (otherwise : List Command) (id : Int) {s : Session} {passed : Bool} (hb : branches ≠ [])
    (hs : s.table.Reachable)
    (hp : (runCommand setting (.conditional status branches otherwise id) s).ending =
      .ok passed) :
    let ran := runCommand setting (.conditional status branches otherwise id) s
    (∃ branches' otherwise' t record,
      ran.tree = .conditional { status with valid := status.valid && passed } branches' otherwise'
        id ∧
      runEach setting id s.table (nested branches otherwise) = (nested branches' otherwise', t) ∧
      conditionalRecord id branches' otherwise' = .ok record ∧
      ran.session.table = recordConditional id record t) ∧
    ran.session.table = (plainCommand setting (.conditional status branches otherwise id)
      s.around.conditional s.around.branch s.table.contents).table.withJournals
        s.table.journals ∧
    ran.session.around = s.around := by
  have halone : ¬(Command.conditional status branches otherwise id).RunsAlone setting := by
    cases branches with
    | nil => exact absurd rfl hb
    | cons b rest => exact runsAlone_of_branch hp
  obtain ⟨bs, cs, v, e, h⟩ := conducted halone s
  obtain ⟨n, record, hn, -, hrecord, rfl, htree⟩ := h.ok hp
  have closed := closed_command setting (.conditional status branches otherwise id) hs
  have hin : (s.inside status.span id).table.Reachable := hs.openJournal
  have mirrors := Part.mirrors_conducted h hs
    (Part.mirrors_run setting (.inside id branches otherwise) _ hin rfl)
    s.around.conditional s.around.branch
  -- What is inside is run in the journal of the conditional, from the same contents.
  have steps := sequence_run setting (.inside id branches otherwise) _ hs hin rfl rfl rfl hn
  rw [h.tree, Part.entries_inside, Part.entries_inside] at steps
  dsimp only
  refine ⟨⟨bs, cs, (runEach setting id s.table (nested branches otherwise)).2, record, htree,
    Prod.ext steps.trees rfl, hrecord, ?_⟩, ?_, closed.around⟩
  · refine SymbolTable.eq_of_contents ?_ ?_
    · rw [Part.contents_conducted h hs, contents_recordConditional, steps.contents]
      exact contents_recordConditional id record _
    · rw [closed.journals, journals_recordConditional]
      exact steps.journals.symm
  · refine SymbolTable.eq_of_contents ?_ closed.journals
    rw [SymbolTable.contents_withJournals, ← mirrors.contents]
    rfl

/-- A branch without a condition, in which the first command passes and the second does not. -/
def conditionlessBranch : Branch :=
  .mk none .absent [.action {} (.invalidate "V"), .action {} (.invalidate "")]

theorem conditional_effect_conditionless :
    (runCommand {} (.conditional {} [conditionlessBranch] [] 7) {}).ending = .ok false ∧
      (runCommand {} (.conditional {} [conditionlessBranch] [] 7) {}).session.table.trackedList
        .invalidatedParams = some [.string "V"] := by
  have hp : (runCommand {} (.conditional {} [conditionlessBranch] [] 7) {}).ending =
      .ok false := rfl
  obtain ⟨-, ht, -⟩ := conditional_effect {} {} [] 7 (List.cons_ne_nil _ _) .empty hp
  refine ⟨hp, ?_⟩
  rw [ht]
  rfl

end DialogScript
