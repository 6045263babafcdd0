import DialogScript.Proofs.Analysis.Accounting
import DialogScript.Proofs.Running.Emitted

/-!
What the diagnostics of an analysis are about. Each has the kind of the innermost command that was
running when it was emitted, and a place if that command has one. The exception is what evaluations
warn of: their warnings have the place of a name, and no command.
-/

namespace DialogScript

/-- What a lack of memory emits where it has ended a run: the command that it has arisen in is the
last one visited. The conditionals around list it again, once for each. -/
def shortageEmitted (vs : List Visit) : Except Stop Bool → List Emitted
  | .error (.outOfMemory m) =>
    vs.getLast?.toList.flatMap fun v => m.diagnostics.map (Emitted.mk v.command)
  | .error (.broken _) | .ok _ => []

/-- What the run of a command that stands in a block directly emits. -/
def topmostEmitted (setting : Setting) (c : Command) (s : Session) : List Emitted :=
  emitted setting c s ++
    shortageEmitted (visits setting c s) (runCommand setting c s).ending

/-- What a pass over scheduled commands emits. -/
def Pass.emitted (setting : Setting) (p : Pass) : List Entry → List Emitted
  | [] => []
  | e :: rest =>
    if p.aborted then []
    else
      topmostEmitted setting e.command p.session ++
        match command setting e.block e.place e.command p with
        | .ok (_, p) => emitted setting p rest
        | .error _ => []

/-- What an analysis emits. -/
def Script.emitted (setting : Setting) (table : SymbolTable) (script : Script) : List Emitted :=
  Pass.emitted setting { session := { table } } (schedule script.blocks)

variable {setting : Setting} {p q : Pass} {c : Command} {s : Session}

/-! ## Commands that stand in blocks directly -/

/-- A lack of memory is about the command that it has arisen in. -/
theorem Shortage.OfLast.attributed {m : Shortage} {vs : List Visit} (h : m.OfLast vs) :
    ∃ v ∈ vs, shortageEmitted vs (.error (.outOfMemory m)) =
        m.diagnostics.map (Emitted.mk v.command) ∧
      ∀ d ∈ m.diagnostics, Emitted.Attributed ⟨v.command, d⟩ := by
  obtain ⟨v, hv, hk, hp⟩ := h
  refine ⟨v, List.mem_of_getLast? hv, ?_, fun d hd => ?_⟩
  · rw [shortageEmitted, hv, Option.toList_some, List.flatMap_singleton]
  rw [List.eq_of_mem_replicate hd]
  refine ⟨⟨m.kind, hk, rfl⟩, fun hs => ?_⟩
  show (m.span <|> none) ≠ none
  cases hspan : m.span with
  | none => exact absurd hspan (hp hs)
  | some place => exact nofun

/-- A run in a block adds what it emits, a lack of memory included. -/
theorem emits_topmost (setting : Setting) (c : Command) (s : Session) :
    Emits s (runTopmost setting c s).session ((visits setting c s).map Visit.command)
      (topmostEmitted setting c s) := by
  have run := emits_command setting c s
  have lack := ofLast_command setting c s
  unfold runTopmost topmostEmitted
  dsimp only
  cases h : (runCommand setting c s).ending with
  | ok passed =>
    rw [shortageEmitted, List.append_nil]
    exact run
  | error stop =>
    cases stop with
    | broken b =>
      rw [shortageEmitted, List.append_nil]
      exact run
    | outOfMemory m =>
      obtain ⟨v, hv, hes, hattributed⟩ := (lack m h).attributed
      rw [hes]
      have shortage : Emits (runCommand setting c s).session
          { (runCommand setting c s).session with
            diagnostics := (runCommand setting c s).session.diagnostics ++ m.diagnostics }
          [v.command] (m.diagnostics.map (Emitted.mk v.command)) :=
        .adding rfl (fun d hd => .inl (hattributed d hd)) rfl
      refine (run.append shortage).mono fun c hc => (List.mem_append.1 hc).elim id fun hc => ?_
      rw [List.mem_singleton.1 hc]
      exact List.mem_map_of_mem hv

/-! ## Passes -/

/-- A pass goes on with the session that the run of its command leaves. -/
theorem Pass.command_session {block place : Nat} {c' : Command} (ha : p.aborted = false)
    (h : Pass.command setting block place c p = .ok (c', q)) :
    q.session = (runTopmost setting c p.session).session := by
  have hrun : ¬(p.aborted = true) := by simp [ha]
  rw [Pass.command, if_neg hrun] at h
  dsimp only at h
  split at h <;> cases h <;> rfl

/-- A pass emits what the runs of its commands emit, also if it breaks down. -/
theorem Pass.told_emitted (setting : Setting) (p : Pass) (es : List Entry) :
    ∀ e ∈ Pass.emitted setting p es, e.Told ∧
      e.command ∈ (Pass.visits setting p es).map Visit.command := by
  induction es generalizing p with
  | nil => exact fun _ h => absurd h List.not_mem_nil
  | cons entry rest ih =>
    intro e he
    have run := emits_topmost setting entry.command p.session
    rw [Pass.emitted] at he
    rw [Pass.visits]
    split at he
    · exact absurd he List.not_mem_nil
    rename_i ha
    rw [if_neg ha, List.map_append, List.mem_append]
    rcases List.mem_append.1 he with he | he
    · exact ⟨run.told e he, .inl (run.emitters e he)⟩
    · cases hcommand : Pass.command setting entry.block entry.place entry.command p with
      | error b =>
        rw [hcommand] at he
        exact absurd he List.not_mem_nil
      | ok found =>
        rw [hcommand] at he
        obtain ⟨told, hvisited⟩ := ih found.2 e he
        exact ⟨told, .inr hvisited⟩

theorem Pass.diagnostics_emitted {es es' : List Entry} (h : Pass.Course setting p es es' q) :
    q.session.diagnostics =
      p.session.diagnostics ++ (Pass.emitted setting p es).map Emitted.diagnostic := by
  induction h with
  | done p => exact (List.append_nil _).symm
  | @idle p ha es =>
    have hnone : Pass.emitted setting p es = [] := by
      cases es with
      | nil => rfl
      | cons e rest => rw [Pass.emitted, if_pos ha]
    rw [hnone]
    exact (List.append_nil _).symm
  | @step p u q e rest rest' c ha hcommand hrest ih =>
    have hrun : ¬(p.aborted = true) := by simp [ha]
    rw [ih, Pass.command_session ha hcommand,
      (emits_topmost setting e.command p.session).diagnostics, Pass.emitted, if_neg hrun, hcommand,
      List.map_append, List.append_assoc]

/-- Every diagnostic of an analysis is emitted while some visited command is the innermost one that
is running. It has the kind of that command, and a place if the command has one, unless an
evaluation warns that a name is taken for the name of a file: such a warning has no command. So it
is too with what is emitted before an analysis breaks down. -/
theorem Script.emitted_attributed (setting : Setting) (table : SymbolTable) (script : Script) :
    (∀ e ∈ script.emitted setting table, (e.Attributed ↔ ¬e.OfEvaluation) ∧
      ∃ v ∈ script.visits setting table, v.command = e.command) ∧
    ∀ a, script.analyze setting table = .ok a →
      a.diagnostics = (script.emitted setting table).map Emitted.diagnostic := by
  refine ⟨fun e he => ?_, fun a h => ?_⟩
  · obtain ⟨told, hvisited⟩ := Pass.told_emitted setting _ _ e he
    refine ⟨⟨fun hattributed hwarns => hwarns.not_attributed hattributed, told.resolve_right⟩, ?_⟩
    exact List.mem_map.1 hvisited
  · obtain ⟨p, hp, hpass⟩ := Script.analyze_through h
    rw [Analysis.diagnostics, hpass, p.indexed_eq.1]
    exact Pass.diagnostics_emitted (Pass.course_of_through hp)

/-- A conditional on a name that is not bound, with an expression that looks like a path in it. -/
def pathInConditional : Script :=
  { blocks := [{ kind := .gui, commands := [
      .conditional { span := some (.atLine 2 none) } [.mk none (.named none "A")
        [.action { span := some (.atLine 3 none) } (.evaluate (.named none "a.gif"))]] [] 1] }] }

theorem emitted_attributed_pathInConditional :
    (∃ a, pathInConditional.analyze {} {} = .ok a ∧
      a.diagnostics.map (fun d => (d.code, d.command)) =
        [("E501", some "IF"), ("W101", none), ("E306", some "IF")]) ∧
    ((pathInConditional.emitted {} {}).map fun e => e.command.kind?) =
      [some .conditional, some .expression, some .conditional] ∧
    ∀ e ∈ pathInConditional.emitted {} {}, e.diagnostic.code ≠ "W101" → e.Attributed := by
  obtain ⟨hall, hdiagnostics⟩ := pathInConditional.emitted_attributed {} {}
  refine ⟨?_, rfl, fun e he hcode => (hall e he).1.2 ?_⟩
  · obtain ⟨a, h⟩ : ∃ a, pathInConditional.analyze {} {} = .ok a := ⟨_, rfl⟩
    refine ⟨a, h, ?_⟩
    rw [hdiagnostics a h]
    rfl
  · rintro ⟨r, ⟨name, hr, -⟩, hd⟩
    refine hcode ?_
    rw [hd]
    show r.remark.code = "W101"
    rw [hr]
    rfl

/-- An expression that looks like a path, at a known place. -/
def pathEvaluated : Script :=
  { blocks := [{ kind := .gui, commands := [
      .action { span := some (.atLine 3 none) } (.evaluate (.named none "a.gif"))] }] }

/-- The only diagnostic of an analysis has neither a command nor a place, though it is emitted while
an expression at a known place is the innermost command. -/
theorem emitted_attributed_pathEvaluated :
    (∃ a, pathEvaluated.analyze {} {} = .ok a ∧
      a.diagnostics.map (fun d => (d.code, d.command, d.span)) = [("W101", none, none)]) ∧
    ((pathEvaluated.emitted {} {}).map fun e => (e.command.kind?, e.command.span)) =
      [(some .expression, some (.atLine 3 none))] ∧
    ¬∀ e ∈ pathEvaluated.emitted {} {}, e.Attributed := by
  refine ⟨⟨_, rfl, rfl⟩, rfl, fun hall => ?_⟩
  obtain ⟨⟨kind, -, hkind⟩, -⟩ := hall _ List.mem_cons_self
  cases hkind

end DialogScript
