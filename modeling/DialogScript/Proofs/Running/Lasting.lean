import DialogScript.Proofs.Checking.Passes
import DialogScript.Proofs.Running.Steady

/-!
Properties of tables that last through a run. What a run leaves is written by actions that pass and
by the conditionals around them, so a property that one such write keeps is kept by every run,
at every depth and however it ends.
-/

namespace DialogScript

variable {setting : Setting} {P : SymbolTable → Prop} {s : Session}

/-! ## Actions that pass -/

/-- An action that passes keeps what its check has written. The check finds the same, and writes the
same, in every session that is alike. -/
theorem runAction_writes {status : Status} {a : Action}
    (h : (runAction setting status a s).ending = .ok true) :
    ∃ kind ws, a.kind? = some kind ∧
      (∀ u, Session.Alike s u →
        Check.Passes (Check.action a) ⟨kind, setting.host⟩ u () (u.table.applyAll ws)) ∧
      (runAction setting status a s).session.table.contents = s.table.contents.applyAll ws := by
  cases hk : a.kind? with
  | none =>
    simp only [runAction, hk] at h
    cases h
  | some kind =>
    by_cases hx : setting.exhausted = some kind
    · simp only [runAction, hk, hx, if_true] at h
      cases h
    -- The check finds the same inside the journal of the command as outside.
    have halike : Session.Alike s (s.entered kind status.span) := ⟨rfl, rfl, rfl⟩
    obtain ⟨ws, -, hws⟩ := Check.action_tame a ⟨kind, setting.host⟩ s
    obtain ⟨hsame, es, hinside, -⟩ := hws _ halike
    have hrun : runAction setting status a s =
        ((s.entered kind status.span).after ws es).finish kind (.action status a)
          ((Check.action a ⟨kind, setting.host⟩ s).1.mapError Setback.ofFailure) := by
      rw [← hinside, ← hsame]
      simp only [runAction, hk, hx, if_false]
    rw [hrun] at h ⊢
    cases hr : (Check.action a ⟨kind, setting.host⟩ s).1 with
    | error f =>
      rw [hr] at h
      cases f <;> cases h
    | ok done =>
      refine ⟨kind, ws, rfl, fun u hu => ?_, ?_⟩
      · obtain ⟨hresult, ds, hafter, -⟩ := hws u hu
        exact .of_run (Prod.ext (hresult.trans hr) hafter)
      · show (s.table.openJournal.applyAll ws).contents = s.table.contents.applyAll ws
        rw [SymbolTable.contents_applyAll]
        rfl

theorem runAction_passed {status : Status} {a : Action}
    (h : (runAction setting status a s).ending = .ok true) :
    ∃ kind u, a.kind? = some kind ∧ Check.Passes (Check.action a) ⟨kind, setting.host⟩ s () u ∧
      (runAction setting status a s).session.table.contents = u.contents := by
  obtain ⟨kind, ws, hk, hpasses, hcontents⟩ := runAction_writes h
  refine ⟨kind, s.table.applyAll ws, hk, hpasses s (.refl s), ?_⟩
  rw [hcontents, SymbolTable.contents_applyAll]

/-! ## Runs -/

/-- A property of what is in a table that an action that passes keeps, and the record of a
conditional too. -/
structure Lasting (setting : Setting) (P : SymbolTable → Prop) : Prop where
  action : ∀ {a : Action} {kind : CommandKind} {s : Session} {u : SymbolTable},
    a.kind? = some kind → Check.Passes (Check.action a) ⟨kind, setting.host⟩ s () u →
    P s.table → P u
  recorded : ∀ {t : SymbolTable} (id : Int) (v : Value), P t → P (t.setRecord .conditionals id v)

theorem Lasting.part (h : Lasting setting P) (p : Part) (s : Session) (hs : s.table.Reachable)
    (ht : P s.table.contents) : P (p.run setting s).session.table.contents := by
  induction p, s using Part.run_induction setting with
  | @alone around c s halone =>
    show P (runCommand setting c s).session.table.contents
    rcases table_alone halone hs with hsame | ⟨status, a, rfl, hpassed⟩
    · rwa [hsame]
    · obtain ⟨kind, ws, hk, hpasses, hcontents⟩ := runAction_writes hpassed
      rw [runCommand, hcontents]
      have halike : Session.Alike s { s with table := s.table.contents } := ⟨rfl, rfl, rfl⟩
      exact h.action hk (hpasses _ halike) ht
  | conditional around hconducted inner =>
    show P (runCommand setting _ _).session.table.contents
    replace inner := inner hs.openJournal ht
    rw [Part.contents_conducted hconducted hs]
    rcases hconducted.leaving.contents with hsame | ⟨record, hrecord⟩
    · rwa [hsame]
    · rw [hrecord]
      exact h.recorded _ record inner
  | condition id index span e s =>
    rwa [Part.contents_condition]
  | idle s hidle => rwa [(hidle.kept setting s).2]
  | halted hhalted first =>
    rw [hhalted.session]
    exact first hs ht
  | @continued p q r s n hcontinued first last =>
    rw [hcontinued.session]
    exact last (q.reachable_run setting hs) (first hs ht)

theorem Lasting.run (h : Lasting setting P) (c : Command) {s : Session} (hs : s.table.Reachable)
    (ht : P s.table.contents) : P (runCommand setting c s).session.table.contents :=
  h.part (.command none c) s hs ht

end DialogScript
