import DialogScript.Proofs.Analysis.Accounting
import DialogScript.Proofs.Loading.Loaded
import DialogScript.Proofs.Running.Calm
import DialogScript.Proofs.Running.Reported

/-!
How the analysis of a loaded script ends. It runs each command that it reaches and reports each
failure, unless a number cannot be converted, or a selection of no particular variant, which has no
kind, stands where a command is run.
-/

namespace DialogScript

variable {setting : Setting} {p q : Pass}

/-! ## Scheduled commands -/

theorem mem_blockEntries {e : Entry} {block place : Nat} {cs : List Command}
    (h : e ∈ blockEntries block place cs) : e.command ∈ cs := by
  induction cs generalizing place with
  | nil => exact absurd h List.not_mem_nil
  | cons c rest ih =>
    rcases List.mem_cons.1 h with rfl | h
    · exact List.mem_cons_self
    · exact List.mem_cons_of_mem c (ih h)

theorem mem_kindEntries {e : Entry} {kind : BlockKind} {place : Nat} {bs : List Block}
    (h : e ∈ kindEntries kind place bs) : ∃ b ∈ bs, e.command ∈ b.commands := by
  induction bs generalizing place with
  | nil => exact absurd h List.not_mem_nil
  | cons b rest ih =>
    rcases List.mem_append.1 h with h | h
    · split at h
      · exact ⟨b, List.mem_cons_self, mem_blockEntries h⟩
      · exact absurd h List.not_mem_nil
    · obtain ⟨b', hb', he⟩ := ih h
      exact ⟨b', List.mem_cons_of_mem b hb', he⟩

/-- The commands that an analysis of an intact script runs are intact. -/
theorem Intact.schedule {script : Script} (h : Intact script.slots) :
    ∀ e ∈ schedule script.blocks, Intact e.command.slots := by
  intro e he
  obtain ⟨kind, -, hkind⟩ := List.mem_flatMap.1 he
  obtain ⟨b, hb, hcommand⟩ := mem_kindEntries hkind
  have hblock : Intact (Command.allSlots b.commands) := fun x hx =>
    h x (List.mem_flatMap.2 ⟨b, hb, hx⟩)
  exact Intact.allSlots_iff.1 hblock e.command hcommand

/-! ## One command -/

/-- A pass breaks down over a command if the run of the command does. -/
theorem Pass.command_broken {block place : Nat} {c : Command} {b : Breakdown}
    (h : Pass.command setting block place c p = .error b) :
    (runCommand setting c p.session).ending = .error (.broken b) := by
  cases ha : p.aborted with
  | true =>
    rw [Pass.command, if_pos ha] at h
    cases h
  | false =>
    have hrun : ¬(p.aborted = true) := by simp [ha]
    rw [Pass.command, if_neg hrun] at h
    unfold runTopmost at h
    dsimp only at h
    cases hr : (runCommand setting c p.session).ending with
    | ok passed =>
      rw [hr] at h
      dsimp only at h
      rw [hr] at h
      cases passed <;> cases h
    | error stop =>
      rw [hr] at h
      cases stop with
      | outOfMemory m => cases h
      | broken b' =>
        dsimp only at h
        rw [hr] at h
        cases h
        rfl

/-- A pass between two commands: what is bound is homogeneous, and no conditional is around. -/
structure Pass.Settled (p : Pass) : Prop where
  reachable : p.session.table.Reachable
  homogeneous : p.session.table.Homogeneous
  outside : p.session.around.conditional = none ∧ p.session.around.branch = none

theorem Pass.Settled.initial : Settled { session := {} } where
  reachable := .empty
  homogeneous _ _ h := by cases h
  outside := ⟨rfl, rfl⟩

/-- A command of a settled pass is stopped as expected only. -/
theorem Pass.Settled.stopped {c : Command} {stop : Stop} (hp : p.Settled) (hc : Intact c.slots)
    (h : (runCommand setting c p.session).ending = .error stop) :
    Expected setting c.reached stop :=
  (calm_command none hc hp.reachable hp.homogeneous hp.outside).1 stop h

/-- An intact command leaves a settled pass. -/
theorem Pass.Settled.command {block place : Nat} {c c' : Command} (hp : p.Settled)
    (ha : p.aborted = false) (hc : Intact c.slots)
    (h : Pass.command setting block place c p = .ok (c', q)) : q.Settled := by
  have homogeneous : (runCommand setting c p.session).session.table.Homogeneous :=
    (calm_command none hc hp.reachable hp.homogeneous hp.outside).2
  have closed := closed_command setting c hp.reachable
  have outside := hp.outside
  rw [← closed.around] at outside
  obtain ⟨-, ⟨-, rfl⟩ | ⟨-, rfl⟩ | ⟨m, -, rfl⟩⟩ := Pass.command_cases ha h
  all_goals exact ⟨closed.reachable, homogeneous, outside⟩

/-! ## Whole passes -/

/-- A pass over intact commands breaks down as expected only. -/
theorem broken_through {es : List Entry} {b : Breakdown} (hp : p.Settled)
    (hi : ∀ e ∈ es, Intact e.command.slots) (h : Pass.through setting p es = .error b) :
    Expected setting (es.flatMap fun e => e.command.reached) (.broken b) := by
  induction es generalizing p with
  | nil => cases h
  | cons e rest ih =>
    obtain ⟨he, hrest⟩ := List.forall_mem_cons.1 hi
    rw [List.flatMap_cons]
    rcases Pass.through_cons_error h with hcommand | ⟨c, u, hcommand, hothers⟩
    · exact (hp.stopped he (Pass.command_broken hcommand)).mono fun c hc =>
        List.mem_append_left _ hc
    · have hu := hp.command (Pass.running_of_broken h) he hcommand
      exact (ih hu hrest hothers).mono fun c hc => List.mem_append_right _ hc

theorem mem_visits (setting : Setting) (c : Command) (s : Session) :
    ⟨c, s⟩ ∈ visits setting c s := by
  cases c <;> rw [visits] <;> exact List.mem_cons_self

/-- A pass breaks down over a visited command whose run does. -/
theorem visited_of_broken {es : List Entry} {b : Breakdown}
    (h : Pass.through setting p es = .error b) :
    ∃ v ∈ Pass.visits setting p es, (v.ran setting).ending = .error (.broken b) := by
  induction es generalizing p with
  | nil => cases h
  | cons e rest ih =>
    have ha := Pass.running_of_broken h
    rcases Pass.through_cons_error h with hcommand | ⟨c, u, hcommand, hothers⟩
    · have hrun : ¬p.aborted = true := by simp [ha]
      rw [Pass.visits, if_neg hrun]
      exact ⟨⟨e.command, p.session⟩, List.mem_append_left _ (mem_visits setting _ _),
        Pass.command_broken hcommand⟩
    · obtain ⟨v, hv, hbroken⟩ := ih hothers
      rw [Pass.visits_cons rest ha hcommand]
      exact ⟨v, List.mem_append_right _ hv, hbroken⟩

/-- A pass over intact commands is aborted only where the setting lacks memory. -/
theorem aborted_through {es es' : List Entry} (hp : p.Settled)
    (hi : ∀ e ∈ es, Intact e.command.slots) (ha : p.aborted = false)
    (h : Pass.through setting p es = .ok (es', q)) (hq : q.aborted = true) :
    setting.exhausted ≠ none := by
  replace h := Pass.course_of_through h
  induction h with
  | done p =>
    rw [ha] at hq
    cases hq
  | idle haborted es =>
    rw [ha] at haborted
    cases haborted
  | step hrun hcommand hrest ih =>
    obtain ⟨he, hothers⟩ := List.forall_mem_cons.1 hi
    have hu := hp.command ha he hcommand
    obtain ⟨-, ⟨-, rfl⟩ | ⟨-, rfl⟩ | ⟨m, hr, rfl⟩⟩ := Pass.command_cases ha hcommand
    · exact ih hu hothers ha hq
    · exact ih hu hothers ha hq
    · exact hp.stopped he hr

/-- A pass reports each visited command that fails. -/
theorem tells_through {es es' : List Entry} (h : Pass.through setting p es = .ok (es', q)) :
    Tells setting p.session q.session (Pass.visits setting p es) := by
  replace h := Pass.course_of_through h
  induction h with
  | done p => exact .refl setting p.session
  | idle ha es =>
    rw [Pass.visits_of_aborted ha]
    exact .refl setting _
  | @step p u q e rest rest' c ha hcommand hrest ih =>
    rw [Pass.visits_cons rest ha hcommand]
    refine .append ?_ ih
    have first := tells_command setting e.command p.session
    obtain ⟨-, ⟨-, rfl⟩ | ⟨-, rfl⟩ | ⟨m, -, rfl⟩⟩ := Pass.command_cases ha hcommand
    · exact first
    · exact first
    · exact first.more (List.prefix_append _ _)

/-! ## Loaded scripts -/

/-- The analysis of a loaded script, from no bindings, comes to one of two ends. It may give a
result; then every visited command that fails is marked and reported, memory has run out if the
pass was aborted, and otherwise each command that there is to reach has been run to its end, also
after others failed. Or it breaks down as a visited command does, at a number that cannot be
converted or at a command without a kind. -/
theorem Script.analyze_loaded {source : Tree.Source} {data : Data} {script : Script}
    (hs : source.emptySlot = none) (h : Tree.loadScript source data = .ok script)
    (setting : Setting) :
    (∃ a, script.analyze setting {} = .ok a ∧
      (∀ v ∈ script.visits setting {}, v.Reported setting a.diagnostics) ∧
      (a.pass.aborted = true → setting.exhausted ≠ none) ∧
      (a.pass.aborted = false →
        (script.visits setting {}).map Visit.command = script.reached ∧
        ∀ v ∈ script.visits setting {}, ∃ passed, (v.ran setting).ending = .ok passed)) ∨
    ∃ b, script.analyze setting {} = .error b ∧
      (∃ v ∈ script.visits setting {}, (v.ran setting).ending = .error (.broken b)) ∧
      (b.isArithmetic = true ∨
        b = .noMember "SelectCommand" "kind" ∧ ∃ c ∈ script.reached, c.kind? = none) := by
  have hi := (Tree.loadScript_intact hs h).schedule
  cases ha : script.analyze setting {} with
  | error b =>
    have hthrough := Script.analyze_broken ha
    exact .inr ⟨b, rfl, visited_of_broken hthrough, broken_through .initial hi hthrough⟩
  | ok a =>
    obtain ⟨p, hthrough, hpass⟩ := Script.analyze_through ha
    obtain ⟨hdiagnostics, -, haborted⟩ := p.indexed_eq
    rw [← hpass] at hdiagnostics haborted
    refine .inl ⟨a, rfl, fun v hv => ?_, fun hmemory => ?_, fun hend => ?_⟩
    · rw [Analysis.diagnostics, hdiagnostics]
      exact (tells_through hthrough).reported v hv
    · exact aborted_through .initial hi rfl hthrough (haborted ▸ hmemory)
    · have ended := ended_through hthrough (haborted ▸ hend)
      exact ⟨ended.commands, ended.ended⟩

/-- A dialog whose window has a width, and which then invalidates a parameter. -/
def windowOfWidth (width : Data) : Data :=
  .dict [("blocks", .list [.dict [("kind", .text "GUI"), ("commands", .list [
    .dict [("node", .text "ConfigElem"), ("width", width)],
    .dict [("node", .text "InvalidateParam"), ("name", .text "A")]])]])]

/-- A text is no width; the parameter is invalidated all the same. -/
theorem analyze_loaded_textWidth :
    ∃ script a, Tree.loadScript {} (windowOfWidth (.text "wide")) = .ok script ∧
      script.analyze {} {} = .ok a ∧
      (script.visits {} {}).map (fun v => v.command.kind?) =
        [some .configElem, some .invalidateParam] ∧
      (∃ d ∈ a.diagnostics, d.severity = .error ∧ d.command = some CommandKind.configElem.name) ∧
      a.table.trackedList .invalidatedParams = some [.string "A"] := by
  obtain ⟨script, hscript⟩ :
      ∃ script, Tree.loadScript {} (windowOfWidth (.text "wide")) = .ok script := ⟨_, rfl⟩
  obtain ⟨a, ha, hreported, -, hall⟩ | ⟨b, hb, -⟩ := Script.analyze_loaded rfl hscript {}
  · have hend : a.pass.aborted = false := by
      cases hscript
      cases ha
      rfl
    have hvisits := (hall hend).1
    have hkinds : script.reached.map Command.kind? =
        [some .configElem, some .invalidateParam] := by
      cases hscript
      rfl
    refine ⟨script, a, hscript, ha, ?_, ?_, ?_⟩
    · rw [← hkinds, ← hvisits, List.map_map]
      rfl
    · cases hscript
      obtain ⟨-, kind, hk, hd⟩ := hreported _ List.mem_cons_self rfl
      cases hk
      exact hd
    · cases hscript
      cases ha
      rfl
  · cases hscript
    cases hb

/-- How the analysis of a loaded script breaks down, if it does. -/
def Script.breakdown? (setting : Setting) (script : Script) : Option Breakdown :=
  match script.analyze setting {} with
  | .error b => some b
  | .ok _ => none

theorem Script.breakdown?_eq_some_iff {script : Script} {b : Breakdown} :
    script.breakdown? setting = some b ↔ script.analyze setting {} = .error b := by
  unfold breakdown?
  cases script.analyze setting {} <;> simp

/-- A whole number has no bound, but a width is converted to a double. -/
theorem analyze_loaded_hugeWidth :
    ∃ script, Tree.loadScript {} (windowOfWidth (.int (Int.pow 10 309))) = .ok script ∧
      script.analyze {} {} = .error .integerTooLarge := by
  have hbroken : (Tree.loadScript {} (windowOfWidth (.int (Int.pow 10 309)))).toOption.bind
      (Script.breakdown? {}) = some .integerTooLarge := by decide +kernel
  cases hscript : Tree.loadScript {} (windowOfWidth (.int (Int.pow 10 309))) with
  | error e =>
    rw [hscript] at hbroken
    cases hbroken
  | ok script =>
    rw [hscript] at hbroken
    exact ⟨script, rfl, Script.breakdown?_eq_some_iff.1 hbroken⟩

/-- The record of an assignment holds its value as text, and an integer may be too long for that. -/
example :
    (Tree.loadScript {} (.dict [("blocks", .list [.dict [("kind", .text "GUI"),
      ("commands", .list [
        .dict [("node", .text "DeclareVariable"), ("name", .text "X"),
          ("var_kind", .text "PARAMETER"), ("subtype", .text "INTEGER")],
        .dict [("node", .text "Assignment"),
          ("lhs", .dict [("node", .text "VariableRef"), ("name", .text "X")]),
          ("rhs", .int (Int.pow 10 4300))]])]])])).toOption.bind (Script.breakdown? {}) =
      some .longIntegerText := by decide +kernel

/-- A selection of no particular variant is loaded, and has no kind under which it could be run. -/
example :
    ∃ script, Tree.loadScript {} (.dict [("blocks", .list [.dict [("kind", .text "TAB"),
        ("commands", .list [.dict [("node", .text "SelectCommand")]])]])]) = .ok script ∧
      script.analyze {} {} = .error (.noMember "SelectCommand" "kind") := ⟨_, rfl, rfl⟩

end DialogScript
