import DialogScript.Proofs.Table.Write

/-!
The tables that operations lead to, and what holds of all of them. A name without a binding has no
baseline, also after a transaction has taken a binding back around others that were kept. The
invariant that carries this looks into the journals: an entry that will unbind a name is the only
one for that name, the name is bound while the entry stands, and its baseline, if it has one, goes
with it.
-/

namespace DialogScript

/-- The name that an entry unbinds. -/
def Undo.unbinds? : Undo → Option String
  | .restoreBinding name none => some name
  | _ => none

namespace SymbolTable

/-- The tables that operations lead to from the empty one. -/
inductive Reachable : SymbolTable → Prop where
  | empty : Reachable {}
  | apply {t : SymbolTable} (h : Reachable t) (w : Write) : Reachable (t.apply w)
  | updateRecord {t u : SymbolTable} (h : Reachable t) (kind : RecordKind) (id : Int)
      (fields : List (String × Option Value)) (found : Bool)
      (hu : t.updateRecord kind id fields = .ok (found, u)) : Reachable u
  | mutate {t : SymbolTable} (h : Reachable t) (name : String) (f : Value → Value) :
      Reachable (t.mutate name f)
  | openJournal {t : SymbolTable} (h : Reachable t) : Reachable t.openJournal
  | commit {t : SymbolTable} (h : Reachable t) : Reachable t.commit
  | rollback {t : SymbolTable} (h : Reachable t) : Reachable t.rollback

theorem Reachable.applyAll {t : SymbolTable} (h : t.Reachable) (ws : List Write) :
    (t.applyAll ws).Reachable := by
  induction ws generalizing t with
  | nil => exact h
  | cons w rest ih => exact ih (h.apply w)

/-! ## Entries that unbind -/

/-- The names that a journal unbinds when it is replayed. -/
def unbinds (journal : List Undo) : List String := journal.filterMap Undo.unbinds?

theorem binding?_log (t : SymbolTable) (u : Undo) (name : String) :
    (t.log u).binding? name = t.binding? name := by
  unfold log
  split <;> rfl

theorem baseline_log (t : SymbolTable) (u : Undo) (name : String) :
    (t.log u).baseline name = t.baseline name := by
  unfold log
  split <;> rfl

/-- What holds of a table and its journals. -/
structure Consistent (t : SymbolTable) : Prop where
  grounded : t.Grounded
  bound : ∀ name ∈ t.journals.flatMap unbinds, t.binding? name ≠ none
  dropped : ∀ journal ∈ t.journals, ∀ name ∈ unbinds journal,
    t.baseline name = none ∨ Undo.dropBaseline name ∈ journal
  once : (t.journals.flatMap unbinds).Nodup

namespace Consistent

variable {t u : SymbolTable}

theorem empty : Consistent {} where
  grounded := fun _ _ => rfl
  bound := fun _ h => absurd h List.not_mem_nil
  dropped := fun _ h => absurd h List.not_mem_nil
  once := List.nodup_nil

/-- A change that binds nothing new, with entries that unbind nothing. -/
theorem keep (h : t.Consistent) (new : List Undo)
    (hj : u.journals = withEntries new t.journals) (hn : unbinds new = [])
    (hb : ∀ name, u.binding? name = none ↔ t.binding? name = none)
    (hl : ∀ name, u.baseline name = t.baseline name) : u.Consistent := by
  have hu : u.journals.flatMap unbinds = t.journals.flatMap unbinds := by
    rw [hj]
    cases t.journals with
    | nil => rfl
    | cons journal outer =>
      simp only [unbinds] at hn
      simp [withEntries, unbinds, List.filterMap_append, hn]
  constructor
  · intro name hname
    rw [hl]
    exact h.grounded name ((hb name).1 hname)
  · intro name hname hnone
    rw [hu] at hname
    exact h.bound name hname ((hb name).1 hnone)
  · intro journal hjournal name hname
    rw [hl]
    cases hjs : t.journals with
    | nil =>
      rw [hj, hjs] at hjournal
      cases hjournal
    | cons first outer =>
      rw [hj, hjs] at hjournal
      rcases List.mem_cons.1 hjournal with rfl | hjournal
      · have hmem : name ∈ unbinds first := by
          simp only [unbinds, List.filterMap_append] at hname hn
          rw [hn] at hname
          exact hname
        have hfirst : first ∈ t.journals := hjs ▸ List.mem_cons_self
        exact (h.dropped first hfirst name hmem).imp_right (List.mem_append_right new)
      · exact h.dropped journal (hjs ▸ List.mem_cons_of_mem first hjournal) name hname
  · rw [hu]
    exact h.once

/-- A change that binds one name. The new entries unbind it, and drop its baseline if it has got
one. -/
theorem bind {name : String} (h : t.Consistent) (new : List Undo) (hname : t.binding? name = none)
    (hj : u.journals = withEntries new t.journals) (hn : unbinds new = [name])
    (hb : ∀ other, u.binding? other = none ↔ other ≠ name ∧ t.binding? other = none)
    (hl : ∀ other, other ≠ name → u.baseline other = t.baseline other)
    (hd : u.baseline name = none ∨ Undo.dropBaseline name ∈ new) : u.Consistent := by
  -- No journal can unbind the name before: it would be bound.
  have hfree : name ∉ t.journals.flatMap unbinds := fun hmem => h.bound name hmem hname
  have hgrounded : u.Grounded := by
    intro other hother
    obtain ⟨hne, hnone⟩ := (hb other).1 hother
    rw [hl other hne]
    exact h.grounded other hnone
  cases hjs : t.journals with
  | nil =>
    rw [hjs] at hj
    refine ⟨hgrounded, ?_, ?_, ?_⟩ <;> rw [hj] <;> simp [withEntries]
  | cons first outer =>
    rw [hjs] at hj hfree
    have hu : u.journals.flatMap unbinds = name :: (first :: outer).flatMap unbinds := by
      rw [hj]
      simp only [unbinds] at hn
      simp [withEntries, unbinds, List.filterMap_append, hn]
    have hother : ∀ other ∈ (first :: outer).flatMap unbinds, other ≠ name :=
      fun other hmem e => hfree (e ▸ hmem)
    refine ⟨hgrounded, ?_, ?_, ?_⟩
    · intro other hmem hnone
      rw [hu] at hmem
      obtain ⟨hne, hold⟩ := (hb other).1 hnone
      rcases List.mem_cons.1 hmem with rfl | hmem
      · exact hne rfl
      · exact h.bound other (hjs ▸ hmem) hold
    · intro journal hjournal other hmem
      rw [hj] at hjournal
      rcases List.mem_cons.1 hjournal with rfl | hjournal
      · simp only [unbinds, List.filterMap_append] at hmem hn
        rw [hn] at hmem
        rcases List.mem_cons.1 hmem with rfl | hmem
        · exact hd.imp_right (List.mem_append_left first)
        · have hfirst : other ∈ (first :: outer).flatMap unbinds :=
            List.mem_flatMap.2 ⟨first, List.mem_cons_self, hmem⟩
          rw [hl other (hother other hfirst)]
          exact (h.dropped first (hjs ▸ List.mem_cons_self) other hmem).imp_right
            (List.mem_append_right new)
      · have houter : other ∈ (first :: outer).flatMap unbinds :=
          List.mem_flatMap.2 ⟨journal, List.mem_cons_of_mem first hjournal, hmem⟩
        rw [hl other (hother other houter)]
        exact h.dropped journal (hjs ▸ List.mem_cons_of_mem first hjournal) other hmem
    · rw [hu]
      exact List.nodup_cons.2 ⟨hfree, hjs ▸ h.once⟩

/-! ## Operations -/

/-- A change outside bindings and baselines, with an entry that unbinds nothing. -/
theorem log {v : SymbolTable} (h : t.Consistent) {e : Undo} (he : e.unbinds? = none)
    (hj : v.journals = t.journals)
    (hb : ∀ name, v.binding? name = none ↔ t.binding? name = none)
    (hl : ∀ name, v.baseline name = t.baseline name) : (v.log e).Consistent := by
  refine h.keep [e] (by rw [journals_log, hj]) (by simp [unbinds, he]) ?_ ?_
  · intro name
    rw [binding?_log]
    exact hb name
  · intro name
    rw [baseline_log]
    exact hl name

/-- Binding a name leaves the others bound or unbound as they are. -/
theorem binding_put (t : SymbolTable) (name : String) (b : Binding) (other : String) :
    (Keyed.put name b t.bindings).lookup other = none ↔ other ≠ name ∧ t.binding? other = none := by
  rw [Keyed.lookup_put]
  by_cases ho : other = name <;> simp [ho, binding?]

/-- Binding a bound name anew leaves the same names bound. -/
theorem rebinding_put {name : String} {b : Binding} (hb : t.binding? name = some b) (next : Binding)
    (other : String) :
    (Keyed.put name next t.bindings).lookup other = none ↔ t.binding? other = none := by
  rw [binding_put]
  refine ⟨And.right, fun ho => ⟨fun e => ?_, ho⟩⟩
  rw [e, hb] at ho
  cases ho

theorem declare (h : t.Consistent) (name : String) (value : Value) :
    (t.declare name value).2.Consistent := by
  unfold SymbolTable.declare
  cases hb : t.binding? name with
  | some b => exact h.log rfl rfl (rebinding_put hb _) fun _ => rfl
  | none =>
    refine h.bind [.dropBaseline name, .restoreBinding name none] hb
      (journals_log_log _ _ _) rfl ?_ ?_ (.inr List.mem_cons_self)
    · intro other
      rw [binding?_log, binding?_log]
      exact binding_put t name _ other
    · intro other hne
      rw [baseline_log, baseline_log]
      exact Keyed.lookup_put_of_ne hne _ _

theorem overwrite (h : t.Consistent) (name : String) (value : Value) :
    (t.overwrite name value).Consistent := by
  unfold SymbolTable.overwrite
  cases hb : t.binding? name with
  | some b => exact h.log rfl rfl (rebinding_put hb _) fun _ => rfl
  | none =>
    refine h.bind [.restoreBinding name none] hb (journals_log _ _) rfl ?_ ?_ (.inl ?_)
    · intro other
      rw [binding?_log]
      exact binding_put t name _ other
    · intro other _
      rw [baseline_log]
      rfl
    · rw [baseline_log]
      exact h.grounded name hb

theorem setRecord (h : t.Consistent) (kind : RecordKind) (id : Int) (value : Value) :
    (t.setRecord kind id value).Consistent := by
  cases kind <;> exact h.log rfl rfl (fun _ => .rfl) fun _ => rfl

theorem setMember (h : t.Consistent) (kind : RecordKind) (id : Int) (key : String)
    (value : Option Value) : (t.setMember kind id key value).Consistent := by
  unfold SymbolTable.setMember
  split
  · cases kind <;> exact h.log rfl rfl (fun _ => .rfl) fun _ => rfl
  · exact h

theorem apply (h : t.Consistent) (w : Write) : (t.apply w).Consistent := by
  cases w with
  | declare name value => exact h.declare name value
  | overwrite name value => exact h.overwrite name value
  | setOptions kind name value => exact h.log rfl rfl (fun _ => .rfl) fun _ => rfl
  | appendTracked list item =>
    show (t.appendTracked list item).Consistent
    unfold appendTracked
    split
    · exact h.log rfl rfl (fun _ => .rfl) fun _ => rfl
    · have hput : ({ t with tracked := Keyed.put list [item] t.tracked }.log
          (.dropTracked list)).Consistent := h.log rfl rfl (fun _ => .rfl) fun _ => rfl
      exact hput.log rfl rfl (fun _ => .rfl) fun _ => rfl
  | setSingleton which value => exact h.log rfl rfl (fun _ => .rfl) fun _ => rfl
  | setRecord kind id value => exact h.setRecord kind id value

theorem setMembers (h : t.Consistent) (kind : RecordKind) (id : Int)
    (fields : List (String × Option Value)) :
    (fields.foldl (fun t f => t.setMember kind id f.1 f.2) t).Consistent := by
  induction fields generalizing t with
  | nil => exact h
  | cons f rest ih => exact ih (h.setMember kind id f.1 f.2)

theorem updateRecord (h : t.Consistent) {kind : RecordKind} {id : Int}
    {fields : List (String × Option Value)} {found : Bool}
    (hu : t.updateRecord kind id fields = .ok (found, u)) : u.Consistent := by
  unfold SymbolTable.updateRecord at hu
  split at hu
  · cases hu
    exact h
  · split at hu
    · cases hu
    · cases hu
      exact h.setMembers kind id fields

theorem mutate (h : t.Consistent) (name : String) (f : Value → Value) :
    (t.mutate name f).Consistent := by
  refine h.keep [] ?_ rfl (fun other => ?_) fun _ => rfl
  · show t.journals = withEntries [] t.journals
    cases t.journals <;> rfl
  · show (Keyed.modify name _ t.bindings).lookup other = none ↔ _
    rw [Keyed.lookup_modify]
    split <;> simp [binding?]

theorem openJournal (h : t.Consistent) : t.openJournal.Consistent where
  grounded := h.grounded
  bound := h.bound
  dropped := by
    intro journal hjournal name hname
    rcases List.mem_cons.1 hjournal with rfl | hjournal
    · cases hname
    · exact h.dropped journal hjournal name hname
  once := h.once

theorem commit (h : t.Consistent) : t.commit.Consistent := by
  have htail : t.commit.journals.flatMap unbinds <:+ t.journals.flatMap unbinds := by
    show t.journals.tail.flatMap unbinds <:+ _
    cases t.journals with
    | nil => exact List.suffix_refl _
    | cons journal outer => exact List.suffix_append _ _
  exact {
    grounded := h.grounded
    bound := fun name hname => h.bound name (htail.subset hname)
    dropped := fun journal hjournal => h.dropped journal (List.mem_of_mem_tail hjournal)
    once := h.once.sublist htail.sublist }

/-! ## Taking back -/

/-- A bound name stays bound, unless an entry unbinds it. -/
theorem binding?_undo {name : String} {e : Undo} (he : e.unbinds? ≠ some name)
    (h : (t.undo e).binding? name = none) : t.binding? name = none := by
  cases e with
  | restoreBinding other previous =>
    cases previous with
    | none =>
      have hne : name ≠ other := fun e => he (by rw [e]; rfl)
      have h' : (Keyed.erase other t.bindings).lookup name = none := h
      rwa [Keyed.lookup_erase_of_ne hne] at h'
    | some b => exact ((binding_put t other b name).1 h).2
  | uncount other generation =>
    have h' : (Keyed.modify other _ t.bindings).lookup name = none := h
    rw [Keyed.lookup_modify] at h'
    split at h'
    · exact Option.map_eq_none_iff.1 h'
    · exact h'
  | restoreRecord kind id previous => cases kind <;> exact h
  | restoreMember kind id generation key previous => cases kind <;> exact h
  | _ => exact h

theorem binding?_replay {name : String} {journal : List Undo} (hn : name ∉ unbinds journal)
    (h : (t.replay journal).binding? name = none) : t.binding? name = none := by
  induction journal generalizing t with
  | nil => exact h
  | cons e rest ih =>
    have he : e.unbinds? ≠ some name := fun he =>
      hn (List.mem_filterMap.2 ⟨e, List.mem_cons_self, he⟩)
    have hrest : name ∉ unbinds rest := fun hmem => by
      obtain ⟨e', hmem, he'⟩ := List.mem_filterMap.1 hmem
      exact hn (List.mem_filterMap.2 ⟨e', List.mem_cons_of_mem e hmem, he'⟩)
    exact binding?_undo he (ih hrest h)

/-- No entry brings a baseline back. -/
theorem baseline_undo {name : String} (h : t.baseline name = none) (e : Undo) :
    (t.undo e).baseline name = none := by
  cases e with
  | dropBaseline other => exact Keyed.lookup_erase_of_none h other
  | restoreRecord kind id previous => cases kind <;> exact h
  | restoreMember kind id generation key previous => cases kind <;> exact h
  | _ => exact h

theorem baseline_replay {name : String} {journal : List Undo}
    (h : t.baseline name = none ∨ Undo.dropBaseline name ∈ journal) :
    (t.replay journal).baseline name = none := by
  induction journal generalizing t with
  | nil => exact h.resolve_right List.not_mem_nil
  | cons e rest ih =>
    refine ih ?_
    rcases h with h | h
    · exact .inl (baseline_undo h e)
    · rcases List.mem_cons.1 h with rfl | h
      · exact .inl (Keyed.lookup_erase_self name t.baselines)
      · exact .inr h

theorem rollback (h : t.Consistent) : t.rollback.Consistent := by
  unfold SymbolTable.rollback
  cases hjs : t.journals with
  | nil => exact h
  | cons journal outer =>
    have hmem : journal ∈ t.journals := hjs ▸ List.mem_cons_self
    have honce := h.once
    rw [hjs, List.flatMap_cons, List.nodup_append] at honce
    obtain ⟨-, hnodup, hapart⟩ := honce
    have hbaseline {name : String} (hl : t.baseline name = none) :
        (t.replay journal).baseline name = none := baseline_replay (.inl hl)
    constructor
    · -- A name that the journal unbinds loses its baseline; any other was unbound before.
      intro name hname
      by_cases hn : name ∈ unbinds journal
      · exact baseline_replay (h.dropped journal hmem name hn)
      · exact hbaseline (h.grounded name (binding?_replay hn hname))
    · -- No name is unbound twice, so replaying leaves the names of the other journals bound.
      intro name hname hnone
      have hn : name ∉ unbinds journal := fun hn => hapart name hn name hname rfl
      have hbound : name ∈ t.journals.flatMap unbinds := by
        rw [hjs, List.flatMap_cons]
        exact List.mem_append_right _ hname
      exact h.bound name hbound (binding?_replay hn hnone)
    · intro other hother name hname
      have hother' : other ∈ t.journals := hjs ▸ List.mem_cons_of_mem journal hother
      exact (h.dropped other hother' name hname).imp_left hbaseline
    · exact hnodup

end Consistent

namespace Reachable

variable {t : SymbolTable}

theorem consistent (h : t.Reachable) : t.Consistent := by
  induction h with
  | empty => exact .empty
  | apply _ w ih => exact ih.apply w
  | updateRecord _ _ _ _ _ hu ih => exact ih.updateRecord hu
  | mutate _ name f ih => exact ih.mutate name f
  | openJournal _ ih => exact ih.openJournal
  | commit _ ih => exact ih.commit
  | rollback _ ih => exact ih.rollback

/-- Writes to a reachable table, and all that its innermost journal notes of them. -/
theorem noted_applyAll (h : t.Reachable) (ws : List Write) : Noted t (t.applyAll ws) := by
  induction ws generalizing t with
  | nil => exact .refl t
  | cons w rest ih => exact (noted_apply h.consistent.grounded w).trans (ih (h.apply w))

end Reachable

/-- Writes in a journal of their own are taken back without a trace. -/
theorem rollback_applyAll {t : SymbolTable} (h : t.Reachable) (ws : List Write) :
    (t.openJournal.applyAll ws).rollback = t :=
  (h.openJournal.noted_applyAll ws).rollback

end SymbolTable

end DialogScript
