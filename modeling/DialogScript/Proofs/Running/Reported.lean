import DialogScript.Proofs.Running.Steady

/-!
The diagnostics of a run. What was found before is kept, and every visited command that fails is
marked and has an error with the name of its kind among the diagnostics, also in a run that is
stopped later.
-/

namespace DialogScript

/-- A visited command whose failure, if it has failed, shows by its flag and among some
diagnostics. -/
def Visit.Reported (setting : Setting) (ds : List Diagnostic) (v : Visit) : Prop :=
  (v.ran setting).ending = .ok false →
    (v.ran setting).tree.valid = false ∧
      ∃ kind, v.command.kind? = some kind ∧
        ∃ d ∈ ds, d.severity = .error ∧ d.command = some kind.name

/-- A stretch of a run, from one session to another, that takes back no diagnostic and reports each
visited command that fails. -/
structure Tells (setting : Setting) (s u : Session) (vs : List Visit) : Prop where
  kept : s.diagnostics <+: u.diagnostics
  reported : ∀ v ∈ vs, v.Reported setting u.diagnostics

variable {setting : Setting} {s t u : Session} {vs ws : List Visit}

theorem Visit.Reported.mono {ds es : List Diagnostic} {v : Visit} (h : v.Reported setting ds)
    (hs : ds <+: es) : v.Reported setting es := fun hf =>
  let ⟨hv, kind, hk, d, hd, hsays⟩ := h hf
  ⟨hv, kind, hk, d, hs.subset hd, hsays⟩

namespace Tells

theorem refl (setting : Setting) (s : Session) : Tells setting s s [] :=
  ⟨List.prefix_rfl, fun _ h => absurd h List.not_mem_nil⟩

/-- Sessions are told apart by their diagnostics only. -/
theorem of_eq {s' u' : Session} (h : Tells setting s u vs) (hs : s'.diagnostics = s.diagnostics)
    (hu : u'.diagnostics = u.diagnostics) : Tells setting s' u' vs := by
  constructor
  · rw [hs, hu]
    exact h.kept
  · rw [hu]
    exact h.reported

/-- More diagnostics may be added. -/
theorem more (h : Tells setting s t vs) (hk : t.diagnostics <+: u.diagnostics) :
    Tells setting s u vs :=
  ⟨h.kept.trans hk, fun v hv => (h.reported v hv).mono hk⟩

theorem append (h : Tells setting s t vs) (h' : Tells setting t u ws) :
    Tells setting s u (vs ++ ws) := by
  refine ⟨h.kept.trans h'.kept, fun v hv => ?_⟩
  rcases List.mem_append.1 hv with hv | hv
  · exact (h.reported v hv).mono h'.kept
  · exact h'.reported v hv

end Tells

/-! ## Leaving a command -/

theorem Session.finish_kept (u : Session) (kind : CommandKind) (c : Command)
    (r : Except Setback Unit) : u.diagnostics <+: (u.finish kind c r).session.diagnostics := by
  rcases r with (e | ⟨m | b⟩) | ok
  · exact List.prefix_append _ _
  · exact List.prefix_rfl
  · exact List.prefix_rfl
  · exact List.prefix_rfl

/-- A command that fails is marked, and its problem is reported under the name of its kind. -/
theorem Session.finish_failed {kind : CommandKind} {c : Command} {r : Except Setback Unit}
    (h : (u.finish kind c r).ending = .ok false) :
    (u.finish kind c r).tree.valid = false ∧
      ∃ d ∈ (u.finish kind c r).session.diagnostics,
        d.severity = .error ∧ d.command = some kind.name := by
  rcases r with (e | ⟨m | b⟩) | ok
  · refine ⟨Command.valid_markInvalid c, _, List.mem_append_right _ (List.mem_singleton_self _), ?_⟩
    exact ⟨rfl, rfl⟩
  · cases h
  · cases h
  · cases h

/-- A command is left after what was run in it. -/
theorem Tells.finish {v : Visit} {kind : CommandKind} {c : Command} {r : Except Setback Unit}
    (h : Tells setting s u vs) (hk : v.command.kind? = some kind)
    (hr : v.ran setting = u.finish kind c r) :
    Tells setting s (u.finish kind c r).session (v :: vs) := by
  obtain ⟨hkept, hothers⟩ := h.more (u.finish_kept kind c r)
  refine ⟨hkept, List.forall_mem_cons.2 ⟨fun hf => ?_, hothers⟩⟩
  rw [hr] at hf ⊢
  obtain ⟨hv, d, hd⟩ := Session.finish_failed hf
  exact ⟨hv, kind, hk, d, hd⟩

/-- A command that does not fail needs no report. -/
theorem Tells.only {v : Visit} (h : s.diagnostics <+: u.diagnostics)
    (hf : (v.ran setting).ending ≠ .ok false) : Tells setting s u [v] := by
  refine ⟨h, fun w hw => ?_⟩
  rw [List.mem_singleton.1 hw]
  exact fun hfailed => absurd hfailed hf

/-! ## Runs -/

theorem tells_alone {c : Command} (h : c.RunsAlone setting) :
    Tells setting s (runCommand setting c s).session [⟨c, s⟩] := by
  have hself : Visit.ran setting ⟨c, s⟩ = runCommand setting c s := rfl
  have hran := runCommand_alone h s
  generalize runCommand setting c s = ran at hself hran ⊢
  cases hran with
  | kindless hk =>
    refine .only List.prefix_rfl fun hf => ?_
    rw [hself] at hf
    cases hf
  | @concluded kind writes ds r hk hds hr =>
    have checked : Tells setting s ((s.entered kind c.span).after writes ds) [] :=
      (Tells.refl setting s).more (List.prefix_append _ _)
    exact checked.finish hk hself

theorem tells_run (setting : Setting) (p : Part) (s : Session) :
    Tells setting s (p.run setting s).session (p.visits setting s) := by
  induction p, s using Part.run_induction setting with
  | alone around s h =>
    show Tells setting s (runCommand setting _ s).session (visits setting _ s)
    rw [visits_alone h]
    exact tells_alone h
  | @conditional around status branches otherwise id s bs cs v r h inner =>
    show Tells setting s (runCommand setting _ s).session (visits setting _ s)
    rw [h.visits, h.run]
    exact .finish (inner.of_eq rfl h.leaving.diagnostics) rfl h.run
  | condition id index span e s =>
    have checked (ds : List Diagnostic) : Tells setting s (s.after [] ds) [] :=
      (Tells.refl setting s).more (List.prefix_append _ _)
    obtain ⟨ds, hs | hs⟩ := Part.session_condition id span setting index e s
    · rw [hs]
      exact checked ds
    · rw [hs]
      exact (checked ds).of_eq rfl rfl
  | idle s h =>
    obtain ⟨u, hr, hu⟩ := h.run_eq setting s
    have hdiagnostics : u.diagnostics = s.diagnostics := by
      rcases hu with rfl | rfl <;> rfl
    rw [h.visits_eq, hr]
    exact (Tells.refl setting s).of_eq rfl hdiagnostics
  | @halted p q r s stop h first =>
    rw [h.visits, h.session]
    exact first
  | @continued p q r s n h first last =>
    rw [h.visits, h.session]
    exact first.append last

theorem tells_command (setting : Setting) (c : Command) (s : Session) :
    Tells setting s (runCommand setting c s).session (visits setting c s) :=
  tells_run setting (.command none c) s

end DialogScript
