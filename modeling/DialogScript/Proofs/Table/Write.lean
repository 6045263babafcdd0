import DialogScript.Table.Basic

/-!
Writes and what takes them back. A write changes the table and notes its inverse in the innermost
journal; replaying what it noted, from the newest entry, gives the table before it. This needs one
fact about the table, that a name without a binding has no baseline either: a declaration drops the
baseline when it is taken back.
-/

namespace DialogScript

namespace SymbolTable

/-- Makes writes in order. -/
def applyAll (t : SymbolTable) (ws : List Write) : SymbolTable := ws.foldl apply t

/-- The table with other journals. -/
def withJournals (t : SymbolTable) (js : List (List Undo)) : SymbolTable :=
  { t with journals := js }

/-- What is in the table, its journals apart. -/
def contents (t : SymbolTable) : SymbolTable := t.withJournals []

/-- Takes back what a journal notes, from the newest entry. -/
def replay (t : SymbolTable) (journal : List Undo) : SymbolTable := journal.foldl undo t

/-- A name without a binding has no baseline. -/
def Grounded (t : SymbolTable) : Prop := ∀ name, t.binding? name = none → t.baseline name = none

theorem contains_eq (t : SymbolTable) (name : String) :
    t.contains name = (t.lookup name).isSome := by
  unfold contains lookup
  rw [Option.isSome_map]

/-! ## Journals and contents -/

theorem eq_of_contents {t u : SymbolTable} (h : t.contents = u.contents)
    (hj : t.journals = u.journals) : t = u := by
  cases t
  cases u
  simp only [contents, withJournals, mk.injEq] at h
  simp_all

theorem contents_withJournals (t : SymbolTable) (js : List (List Undo)) :
    (t.withJournals js).contents = t.contents := rfl

theorem undo_withJournals (t : SymbolTable) (js : List (List Undo)) (u : Undo) :
    (t.withJournals js).undo u = (t.undo u).withJournals js := by
  cases u with
  | restoreRecord kind id previous => cases kind <;> rfl
  | restoreMember kind id generation key previous => cases kind <;> rfl
  | _ => rfl

theorem replay_withJournals (t : SymbolTable) (js : List (List Undo)) (journal : List Undo) :
    (t.withJournals js).replay journal = (t.replay journal).withJournals js := by
  induction journal generalizing t with
  | nil => rfl
  | cons u rest ih =>
    simp only [replay, List.foldl_cons] at ih ⊢
    rw [undo_withJournals, ih]

theorem contents_replay (t : SymbolTable) (journal : List Undo) :
    (t.replay journal).contents = t.contents.replay journal :=
  (replay_withJournals t [] journal).symm

theorem replay_append (t : SymbolTable) (first second : List Undo) :
    t.replay (first ++ second) = (t.replay first).replay second :=
  List.foldl_append

theorem contents_log (t : SymbolTable) (u : Undo) : (t.log u).contents = t.contents := by
  unfold log
  split <;> rfl

/-- Journals with new entries in the innermost one. -/
def withEntries (new : List Undo) : List (List Undo) → List (List Undo)
  | [] => []
  | journal :: outer => (new ++ journal) :: outer

theorem journals_log (t : SymbolTable) (u : Undo) :
    (t.log u).journals = withEntries [u] t.journals := by
  unfold log
  cases h : t.journals with
  | nil => exact h
  | cons journal outer => rfl

theorem withEntries_withEntries (newer new : List Undo) (js : List (List Undo)) :
    withEntries newer (withEntries new js) = withEntries (newer ++ new) js := by
  cases js with
  | nil => rfl
  | cons journal outer => simp [withEntries]

theorem journals_log_log (t : SymbolTable) (older newer : Undo) :
    ((t.log older).log newer).journals = withEntries [newer, older] t.journals := by
  rw [journals_log, journals_log, withEntries_withEntries]
  rfl

/-! ## Noted writes -/

/-- `u` is `t` after writes that its innermost journal notes: replaying the new entries gives the
contents of `t`. -/
def Noted (t u : SymbolTable) : Prop :=
  ∀ journal outer, t.journals = journal :: outer →
    ∃ new, u.journals = (new ++ journal) :: outer ∧ (u.replay new).contents = t.contents

namespace Noted

theorem refl (t : SymbolTable) : Noted t t := fun _ _ h => ⟨[], h, rfl⟩

theorem trans {t u v : SymbolTable} (h : Noted t u) (h' : Noted u v) : Noted t v := by
  intro journal outer hj
  obtain ⟨new, hn, hr⟩ := h journal outer hj
  obtain ⟨newer, hn', hr'⟩ := h' (new ++ journal) outer hn
  refine ⟨newer ++ new, by rw [hn', List.append_assoc], ?_⟩
  calc (v.replay (newer ++ new)).contents
      = (v.replay newer).contents.replay new := by rw [replay_append, contents_replay]
    _ = u.contents.replay new := by rw [hr']
    _ = (u.replay new).contents := (contents_replay u new).symm
    _ = t.contents := hr

/-- A change of the contents that one entry takes back. -/
theorem log {t u : SymbolTable} {entry : Undo} (hj : u.journals = t.journals)
    (h : (u.undo entry).contents = t.contents) : Noted t (u.log entry) := by
  intro journal outer ht
  refine ⟨[entry], by rw [journals_log, hj, ht]; rfl, ?_⟩
  rw [contents_replay, contents_log, ← contents_replay]
  exact h

/-- A change that two entries take back, the newer one first. -/
theorem log_log {t u : SymbolTable} {older newer : Undo} (hj : u.journals = t.journals)
    (h : ((u.undo newer).undo older).contents = t.contents) :
    Noted t ((u.log older).log newer) := by
  intro journal outer ht
  refine ⟨[newer, older], by rw [journals_log_log, hj, ht]; rfl, ?_⟩
  rw [contents_replay, contents_log, contents_log, ← contents_replay]
  exact h

/-- What an open journal notes of is taken back with it. -/
theorem rollback {t u : SymbolTable} (h : Noted t.openJournal u) : u.rollback = t := by
  obtain ⟨new, hj, hr⟩ := h [] t.journals rfl
  unfold SymbolTable.rollback
  rw [hj, List.append_nil]
  exact eq_of_contents hr rfl

end Noted

theorem noted_declare {t : SymbolTable} (hg : t.Grounded) (name : String) (value : Value) :
    Noted t (t.declare name value).2 := by
  unfold declare
  cases h : t.binding? name with
  | some b =>
    refine .log rfl ?_
    simp only [undo, Keyed.modify_put, if_true, Nat.add_sub_cancel]
    rw [Keyed.put_of_lookup h]
  | none =>
    refine .log_log rfl ?_
    have hb : t.baselines.lookup name = none := hg name h
    simp only [undo, Keyed.restore]
    rw [Keyed.erase_put h, Keyed.erase_put hb]

theorem noted_overwrite (t : SymbolTable) (name : String) (value : Value) :
    Noted t (t.overwrite name value) := by
  refine .log rfl ?_
  simp only [undo, binding?]
  rw [Keyed.restore_put]

theorem noted_setOptions (t : SymbolTable) (kind : CommandKind) (name : String) (value : Value) :
    Noted t (t.setOptions kind name value) := by
  refine .log rfl ?_
  simp only [undo, optionsOf]
  rw [Keyed.restore_put]

theorem noted_appendTracked (t : SymbolTable) (list : TrackedList) (item : Value) :
    Noted t (t.appendTracked list item) := by
  unfold appendTracked
  cases h : t.trackedList list with
  | some items =>
    refine .log rfl ?_
    simp only [undo, Keyed.modify_put, List.dropLast_concat]
    rw [Keyed.put_of_lookup h]
  | none =>
    refine .log_log rfl ?_
    simp only [undo, Keyed.modify_put]
    rw [Keyed.erase_put h]

theorem noted_setSingleton (t : SymbolTable) (which : Singleton) (value : Value) :
    Noted t (t.setSingleton which value) := by
  refine .log rfl ?_
  simp only [undo, singleton]
  rw [Keyed.restore_put]

theorem noted_setRecord (t : SymbolTable) (kind : RecordKind) (id : Int) (value : Value) :
    Noted t (t.setRecord kind id value) := by
  cases kind <;>
  · refine .log rfl ?_
    simp only [undo, records, withRecords]
    rw [Keyed.restore_put]

theorem noted_apply {t : SymbolTable} (hg : t.Grounded) (w : Write) : Noted t (t.apply w) := by
  cases w with
  | declare name value => exact noted_declare hg name value
  | overwrite name value => exact noted_overwrite t name value
  | setOptions kind name value => exact noted_setOptions t kind name value
  | appendTracked list item => exact noted_appendTracked t list item
  | setSingleton which value => exact noted_setSingleton t which value
  | setRecord kind id value => exact noted_setRecord t kind id value

/-! ## What writes do to the contents -/

theorem contents_apply (t : SymbolTable) (w : Write) :
    (t.apply w).contents = t.contents.apply w := by
  cases w with
  | declare name value =>
    show (t.declare name value).2.contents = (t.contents.declare name value).2
    unfold declare
    have hb : t.contents.binding? name = t.binding? name := rfl
    rw [hb]
    cases t.binding? name with
    | some b => rw [contents_log]; rfl
    | none => rw [contents_log, contents_log]; rfl
  | overwrite name value => exact contents_log _ _
  | setOptions kind name value => exact contents_log _ _
  | appendTracked list item =>
    show (t.appendTracked list item).contents = t.contents.appendTracked list item
    unfold appendTracked
    have hl : t.contents.trackedList list = t.trackedList list := rfl
    rw [hl]
    cases t.trackedList list with
    | some items => rw [contents_log]; rfl
    | none => rw [contents_log, contents_log]; rfl
  | setSingleton which value => exact contents_log _ _
  | setRecord kind id value =>
    cases kind with
    | conditionals => exact contents_log _ _
    | assignments => exact contents_log _ _

theorem records_log (t : SymbolTable) (e : Undo) (kind : RecordKind) :
    (t.log e).records kind = t.records kind := by
  unfold log
  split <;> cases kind <;> rfl

/-- A record of one kind is apart from those of the other. -/
theorem records_setRecord_of_ne (t : SymbolTable) {kind other : RecordKind} (h : kind ≠ other)
    (id : Int) (value : Value) :
    (t.setRecord kind id value).records other = t.records other := by
  unfold setRecord
  rw [records_log]
  cases kind <;> cases other
  · exact absurd rfl h
  · rfl
  · rfl
  · exact absurd rfl h

/-- Whether a write sets a record. -/
def Write.setsRecord : Write → Bool
  | .setRecord _ _ _ => true
  | _ => false

/-- A write to another part of the table keeps the records. -/
theorem records_apply (t : SymbolTable) {w : Write} (hw : w.setsRecord = false)
    (kind : RecordKind) :
    (t.apply w).records kind = t.records kind := by
  cases w with
  | setRecord kind id value => cases hw
  | declare name value =>
    show (t.declare name value).2.records kind = _
    unfold declare
    split
    · rw [records_log]; cases kind <;> rfl
    · rw [records_log, records_log]; cases kind <;> rfl
  | appendTracked list item =>
    show (t.appendTracked list item).records kind = _
    unfold appendTracked
    split
    · rw [records_log]; cases kind <;> rfl
    · rw [records_log, records_log]; cases kind <;> rfl
  | _ => exact (records_log _ _ kind).trans (by cases kind <;> rfl)

/-- Whether a write binds a name. -/
def Write.binds : Write → Bool
  | .declare _ _ | .overwrite _ _ => true
  | _ => false

theorem bindings_log (t : SymbolTable) (e : Undo) : (t.log e).bindings = t.bindings := by
  unfold log
  split <;> rfl

theorem baselines_log (t : SymbolTable) (e : Undo) : (t.log e).baselines = t.baselines := by
  unfold log
  split <;> rfl

/-- A write to another part of the table keeps the bindings and the first values. -/
theorem bindings_apply (t : SymbolTable) {w : Write} (hw : w.binds = false) :
    (t.apply w).bindings = t.bindings ∧ (t.apply w).baselines = t.baselines := by
  cases w with
  | declare name value => cases hw
  | overwrite name value => cases hw
  | setOptions kind name value => exact ⟨bindings_log _ _, baselines_log _ _⟩
  | appendTracked list item =>
    show (t.appendTracked list item).bindings = _ ∧ (t.appendTracked list item).baselines = _
    unfold appendTracked
    split
    · exact ⟨bindings_log _ _, baselines_log _ _⟩
    · exact ⟨by rw [bindings_log, bindings_log], by rw [baselines_log, baselines_log]⟩
  | setSingleton which value => exact ⟨bindings_log _ _, baselines_log _ _⟩
  | setRecord kind id value =>
    show (t.setRecord kind id value).bindings = _ ∧ (t.setRecord kind id value).baselines = _
    unfold setRecord
    rw [bindings_log, baselines_log]
    cases kind <;> exact ⟨rfl, rfl⟩

theorem bindings_applyAll {ws : List Write} (h : ∀ w ∈ ws, w.binds = false) (t : SymbolTable) :
    (t.applyAll ws).bindings = t.bindings ∧ (t.applyAll ws).baselines = t.baselines := by
  induction ws generalizing t with
  | nil => exact ⟨rfl, rfl⟩
  | cons w rest ih =>
    obtain ⟨hfirst, hrest⟩ := List.forall_mem_cons.1 h
    obtain ⟨hb, hl⟩ := ih hrest (t.apply w)
    obtain ⟨hb', hl'⟩ := t.bindings_apply hfirst
    exact ⟨hb.trans hb', hl.trans hl'⟩

/-! ## What writes do to a name -/

theorem binding?_declare (t : SymbolTable) (name : String) (value : Value) (other : String) :
    (t.apply (.declare name value)).binding? other =
      if other = name then
        some (match t.binding? name with
          | some b => { b with count := b.count + 1 }
          | none => { value })
      else t.binding? other := by
  show (t.declare name value).2.bindings.lookup other = _
  unfold declare
  cases t.binding? name with
  | some b => rw [bindings_log, Keyed.lookup_put, binding?]
  | none => rw [bindings_log, bindings_log, Keyed.lookup_put, binding?]

theorem baseline_declare (t : SymbolTable) (name : String) (value : Value) (other : String) :
    (t.apply (.declare name value)).baseline other =
      if other = name ∧ t.binding? name = none then some value else t.baseline other := by
  show (t.declare name value).2.baselines.lookup other = _
  unfold declare
  cases t.binding? name with
  | some b => rw [baselines_log, if_neg (by simp), baseline]
  | none => rw [baselines_log, baselines_log, Keyed.lookup_put, baseline]; simp

theorem binding?_overwrite (t : SymbolTable) (name : String) (value : Value) (other : String) :
    (t.apply (.overwrite name value)).binding? other =
      if other = name then
        some (match t.binding? name with
          | some b => { b with value, generation := b.generation + 1 }
          | none => { value })
      else t.binding? other := by
  show (t.overwrite name value).bindings.lookup other = _
  unfold overwrite
  rw [bindings_log, Keyed.lookup_put]
  rfl

theorem baseline_overwrite (t : SymbolTable) (name : String) (value : Value) (other : String) :
    (t.apply (.overwrite name value)).baseline other = t.baseline other := by
  show (t.overwrite name value).baselines.lookup other = _
  unfold overwrite
  rw [baselines_log, baseline]

theorem contents_applyAll (t : SymbolTable) (ws : List Write) :
    (t.applyAll ws).contents = t.contents.applyAll ws := by
  induction ws generalizing t with
  | nil => rfl
  | cons w rest ih =>
    show ((t.apply w).applyAll rest).contents = (t.contents.apply w).applyAll rest
    rw [ih, contents_apply]

theorem applyAll_append (t : SymbolTable) (first second : List Write) :
    t.applyAll (first ++ second) = (t.applyAll first).applyAll second :=
  List.foldl_append

/-- What is read under a key after some writes, where each write puts at most one entry. -/
theorem latest_applyAll {κ : Type} [DecidableEq κ] (read : SymbolTable → Option Value) {key : κ}
    {put? : Write → Option (κ × Value)}
    (h : ∀ t w, read (t.apply w) = Keyed.latest key (read t) (put? w).toList) (t : SymbolTable)
    (ws : List Write) : read (t.applyAll ws) = Keyed.latest key (read t) (ws.filterMap put?) := by
  induction ws generalizing t with
  | nil => rfl
  | cons w rest ih =>
    show read ((t.apply w).applyAll rest) = _
    rw [ih, h, List.filterMap_cons]
    cases put? w <;> rfl

end SymbolTable

end DialogScript
