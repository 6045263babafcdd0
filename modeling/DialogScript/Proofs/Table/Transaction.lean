import DialogScript.Proofs.Table.Reachable

/-!
Transactions with calls of every kind in them: writes, updates of record fields, and transactions
inside that fail. A transaction that fails takes back exactly what was done in it, whatever was
written several times, so a failed transaction in another one counts for nothing. A field of a
record is taken back to its value or to no field, so the law is about records whose fields all hold
a value.
-/

namespace DialogScript

/-- Whether every entry of a map holds a value. -/
def Value.isFilled : Value → Bool
  | .map entries => entries.all fun e => e.2.isSome
  | _ => true

namespace SymbolTable

/-! ## Calls -/

/-- A change that leaves undo entries: a write, or one field of a record. -/
inductive Change where
  | write (w : Write)
  | member (kind : RecordKind) (id : Int) (key : String) (value : Option Value)

/-- A call in a transaction. A transaction inside that fails is one call. -/
inductive Call where
  | write (w : Write)
  | update (kind : RecordKind) (id : Int) (fields : List (String × Option Value))
  | failed (calls : List Call)

/-- Makes a change. -/
def change (t : SymbolTable) : Change → SymbolTable
  | .write w => t.apply w
  | .member kind id key value => t.setMember kind id key value

/-- Makes changes in order. -/
def changes (t : SymbolTable) (cs : List Change) : SymbolTable := cs.foldl change t

mutual

/-- Makes a call. An update that breaks down changes nothing. -/
def call (t : SymbolTable) : Call → SymbolTable
  | .write w => t.apply w
  | .update kind id fields =>
    match t.updateRecord kind id fields with
    | .ok (_, u) => u
    | .error _ => t
  | .failed cs => (t.openJournal.calls cs).rollback

/-- Makes calls in order. -/
def calls (t : SymbolTable) : List Call → SymbolTable
  | [] => t
  | c :: rest => (t.call c).calls rest

end

/-- The changes that a call makes for good. -/
def Call.changes : Call → List Change
  | .write w => [.write w]
  | .update kind id fields => fields.map fun f => .member kind id f.1 f.2
  | .failed _ => []

/-- The changes that calls make for good. -/
def Call.allChanges (cs : List Call) : List Change := cs.flatMap Call.changes

/-! ## Filled records -/

/-- Whether a write leaves a filled record filled. -/
def Write.isFilled : Write → Bool
  | .setRecord _ _ value => value.isFilled
  | _ => true

/-- Whether a change leaves a filled record filled. -/
def Change.isFilled : Change → Bool
  | .write w => w.isFilled
  | .member _ _ _ value => value.isSome

mutual

/-- Whether a call passes no record or field without a value. -/
def Call.isFilled : Call → Bool
  | .write w => w.isFilled
  | .update _ _ fields => fields.all fun f => f.2.isSome
  | .failed cs => Call.allFilled cs

/-- Whether calls pass no record or field without a value. -/
def Call.allFilled : List Call → Bool
  | [] => true
  | c :: rest => c.isFilled && Call.allFilled rest

end

/-- Every record is filled. -/
def FilledRecords (t : SymbolTable) : Prop :=
  ∀ kind id r, (t.records kind).lookup id = some r → r.value.isFilled = true

theorem records_withRecords (t : SymbolTable) (kind other : RecordKind)
    (records : List (Int × Record)) :
    (t.withRecords kind records).records other = if other = kind then records
      else t.records other := by
  cases kind <;> cases other <;> rfl

theorem lookup_putRecord (t : SymbolTable) (kind : RecordKind) (id : Int) (r : Record)
    (other : RecordKind) (n : Int) :
    (((t.withRecords kind (Keyed.put id r (t.records kind))).records other).lookup n) =
      if other = kind ∧ n = id then some r else (t.records other).lookup n := by
  rw [records_withRecords]
  by_cases ho : other = kind
  · subst ho
    rw [if_pos rfl, Keyed.lookup_put]
    simp
  · simp [ho]

theorem FilledRecords.empty : FilledRecords {} := by
  intro kind id r hr
  cases kind <;> cases hr

theorem FilledRecords.log {t : SymbolTable} (h : t.FilledRecords) (e : Undo) :
    (t.log e).FilledRecords := fun kind id r hr => h kind id r (by rwa [records_log] at hr)

theorem FilledRecords.putRecord {t : SymbolTable} (h : t.FilledRecords) {kind : RecordKind}
    {id : Int} {r : Record} (hr : r.value.isFilled = true) :
    (t.withRecords kind (Keyed.put id r (t.records kind))).FilledRecords := by
  intro other n r' hr'
  rw [lookup_putRecord] at hr'
  split at hr'
  · cases hr'
    exact hr
  · exact h other n r' hr'

theorem isFilled_put {members : List (String × Option Value)} (key : String) (v : Value)
    (h : (Value.map members).isFilled = true) :
    (Value.map (Keyed.put key (some v) members)).isFilled = true := by
  simp only [Value.isFilled] at h ⊢
  induction members with
  | nil => rfl
  | cons entry rest ih =>
    simp only [List.all_cons, Bool.and_eq_true] at h
    by_cases hk : entry.1 = key <;> simp [Keyed.put, hk, h.1, h.2, ih h.2]

theorem FilledRecords.write {t : SymbolTable} (h : t.FilledRecords) {w : Write}
    (hw : w.isFilled = true) : (t.apply w).FilledRecords := by
  cases w with
  | setRecord kind id value =>
    refine FilledRecords.log (h.putRecord ?_) _
    split <;> exact hw
  | _ =>
    intro kind id r hr
    rw [records_apply t rfl] at hr
    exact h kind id r hr

theorem FilledRecords.change {t : SymbolTable} (h : t.FilledRecords) {c : Change}
    (hc : c.isFilled = true) : (t.change c).FilledRecords := by
  cases c with
  | write w => exact h.write hc
  | member kind id key value =>
    obtain ⟨v, rfl⟩ := Option.isSome_iff_exists.1 hc
    show (t.setMember kind id key (some v)).FilledRecords
    unfold setMember
    split
    · rename_i members generation hr
      exact (h.putRecord (isFilled_put key v (h kind id _ hr))).log _
    · exact h

/-! ## What changes leave to take back -/

/-- A field that is set is taken back to the value it had, or to no field. -/
theorem noted_setMember {t : SymbolTable} (h : t.FilledRecords) (kind : RecordKind) (id : Int)
    (key : String) (value : Option Value) : Noted t (t.setMember kind id key value) := by
  unfold setMember
  split
  · rename_i members generation hr
    -- No field is without a value, so what is restored is what a reading gave.
    have hprevious : ((members.lookup key).join).map some = members.lookup key := by
      cases hl : members.lookup key with
      | none => rfl
      | some previous =>
        have hmem := h kind id _ hr
        simp only [Value.isFilled, List.all_eq_true] at hmem
        obtain ⟨v, rfl⟩ := Option.isSome_iff_exists.1 (hmem _ (Keyed.mem_of_lookup hl))
        rfl
    cases kind <;>
    · refine .log rfl ?_
      simp only [undo, records, withRecords, Keyed.modify_put, if_true, restoreField,
        hprevious, Keyed.restore_put] at hr ⊢
      rw [Keyed.put_of_lookup hr]
  · exact .refl t

theorem noted_change {t : SymbolTable} (h : t.Reachable) (hf : t.FilledRecords) (c : Change) :
    Noted t (t.change c) := by
  cases c with
  | write w => exact noted_apply h.consistent.grounded w
  | member kind id key value => exact noted_setMember hf kind id key value

theorem Reachable.setMember {t : SymbolTable} (h : t.Reachable) (kind : RecordKind) (id : Int)
    (key : String) (value : Option Value) : (t.setMember kind id key value).Reachable := by
  cases hr : (t.records kind).lookup id with
  | none =>
    simp only [SymbolTable.setMember, hr]
    exact h
  | some r =>
    obtain ⟨v, generation⟩ := r
    cases v with
    | map members =>
      refine h.updateRecord kind id [(key, value)] true ?_
      simp [SymbolTable.updateRecord, hr, Value.asMap]
    | _ =>
      simp only [SymbolTable.setMember, hr]
      exact h

theorem Reachable.change {t : SymbolTable} (h : t.Reachable) (c : Change) :
    (t.change c).Reachable := by
  cases c with
  | write w => exact h.apply w
  | member kind id key value => exact h.setMember kind id key value

theorem Reachable.changes {t : SymbolTable} (h : t.Reachable) (cs : List Change) :
    (t.changes cs).Reachable := by
  induction cs generalizing t with
  | nil => exact h
  | cons c rest ih => exact ih (h.change c)

theorem FilledRecords.changes {t : SymbolTable} (h : t.FilledRecords) {cs : List Change}
    (hc : ∀ c ∈ cs, c.isFilled = true) : (t.changes cs).FilledRecords := by
  induction cs generalizing t with
  | nil => exact h
  | cons c rest ih =>
    obtain ⟨hfirst, hrest⟩ := List.forall_mem_cons.1 hc
    exact ih (h.change hfirst) hrest

theorem noted_changes {t : SymbolTable} (h : t.Reachable) (hf : t.FilledRecords)
    {cs : List Change} (hc : ∀ c ∈ cs, c.isFilled = true) : Noted t (t.changes cs) := by
  induction cs generalizing t with
  | nil => exact .refl t
  | cons c rest ih =>
    obtain ⟨hfirst, hrest⟩ := List.forall_mem_cons.1 hc
    exact (noted_change h hf c).trans (ih (h.change c) (hf.change hfirst) hrest)

theorem rollback_changes {t : SymbolTable} (h : t.Reachable) (hf : t.FilledRecords)
    {cs : List Change} (hc : ∀ c ∈ cs, c.isFilled = true) :
    (t.openJournal.changes cs).rollback = t :=
  (noted_changes h.openJournal hf hc).rollback

/-! ## Calls as changes -/

theorem changes_append (t : SymbolTable) (first second : List Change) :
    t.changes (first ++ second) = (t.changes first).changes second :=
  List.foldl_append

theorem changes_members (t : SymbolTable) (kind : RecordKind) (id : Int)
    (fields : List (String × Option Value)) :
    t.changes (fields.map fun f => .member kind id f.1 f.2) =
      fields.foldl (fun t f => t.setMember kind id f.1 f.2) t := by
  simp only [changes, List.foldl_map]
  rfl

/-- Setting fields changes nothing where there is no record that is a map. -/
theorem setMembers_of_lookup {t : SymbolTable} {kind : RecordKind} {id : Int}
    (h : ∀ members generation, (t.records kind).lookup id ≠ some ⟨.map members, generation⟩)
    (fields : List (String × Option Value)) :
    fields.foldl (fun t f => t.setMember kind id f.1 f.2) t = t := by
  have hone (key : String) (value : Option Value) : t.setMember kind id key value = t := by
    unfold setMember
    split
    · rename_i members generation hr
      exact absurd hr (h members generation)
    · rfl
  induction fields with
  | nil => rfl
  | cons f rest ih =>
    rw [List.foldl_cons, hone]
    exact ih

theorem call_update (t : SymbolTable) (kind : RecordKind) (id : Int)
    (fields : List (String × Option Value)) :
    t.call (.update kind id fields) = t.changes (Call.update kind id fields).changes := by
  rw [Call.changes, changes_members]
  unfold call updateRecord
  cases hr : (t.records kind).lookup id with
  | none => exact (setMembers_of_lookup (t := t) (by rw [hr]; exact nofun) fields).symm
  | some r =>
    obtain ⟨v, generation⟩ := r
    cases v with
    | map members => rfl
    | _ => exact (setMembers_of_lookup (t := t) (by rw [hr]; exact nofun) fields).symm

theorem isFilled_changes {c : Call} (h : c.isFilled = true) :
    ∀ ch ∈ c.changes, ch.isFilled = true := by
  cases c with
  | write w => simpa [Call.changes, Change.isFilled, Call.isFilled] using h
  | update kind id fields =>
    simp only [Call.isFilled, List.all_eq_true] at h
    intro ch hch
    obtain ⟨f, hf, rfl⟩ := List.mem_map.1 hch
    exact h f hf
  | failed cs => simp [Call.changes]

theorem allFilled_changes {cs : List Call} (h : Call.allFilled cs = true) :
    ∀ ch ∈ Call.allChanges cs, ch.isFilled = true := by
  induction cs with
  | nil => exact fun ch hch => absurd hch List.not_mem_nil
  | cons c rest ih =>
    simp only [Call.allFilled, Bool.and_eq_true] at h
    exact fun ch hch => (List.mem_append.1 hch).elim (isFilled_changes h.1 ch) (ih h.2 ch)

mutual

/-- A transaction inside that fails makes no change. -/
theorem call_eq_changes {t : SymbolTable} (h : t.Reachable) (hf : t.FilledRecords) (c : Call)
    (hc : c.isFilled = true) : t.call c = t.changes c.changes :=
  match c with
  | .write _ => rfl
  | .update kind id fields => call_update t kind id fields
  | .failed cs => by
    have hcs : Call.allFilled cs = true := hc
    have hinner := calls_eq_changes h.openJournal hf cs hcs
    show (t.openJournal.calls cs).rollback = t
    rw [hinner, rollback_changes h hf (allFilled_changes hcs)]

/-- Calls make the changes of the calls that do not fail. -/
theorem calls_eq_changes {t : SymbolTable} (h : t.Reachable) (hf : t.FilledRecords)
    (cs : List Call) (hc : Call.allFilled cs = true) :
    t.calls cs = t.changes (Call.allChanges cs) :=
  match cs with
  | [] => rfl
  | c :: rest => by
    simp only [Call.allFilled, Bool.and_eq_true] at hc
    have hfirst := call_eq_changes h hf c hc.1
    have hsplit : Call.allChanges (c :: rest) = c.changes ++ Call.allChanges rest := rfl
    rw [calls, hsplit, changes_append, ← hfirst]
    refine calls_eq_changes ?_ ?_ rest hc.2
    · exact hfirst ▸ h.changes _
    · exact hfirst ▸ hf.changes (isFilled_changes hc.1)

end

/-- A table with a bound name, a shared list of one item, and a record with one field. -/
def recorded : SymbolTable :=
  changes {} [.write (.declare "A" (.integer 1)),
    .write (.appendTracked .subPictures (.string "p")),
    .write (.setRecord .conditionals 1 (.map [("if_id", some (.integer 1))]))]

end SymbolTable

end DialogScript
