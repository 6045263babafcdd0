import DialogScript.Proofs.Table.RegistryKey
import DialogScript.Proofs.Table.Transaction

/-!
The registry as it is handed on. Each store of the registry has one entry for a key, whatever
operations have led to it, and the text keys of different entries differ: so the flat list has every
entry of the registry under its text key. A named value is found there exactly where the registry
has no entry for its name.
-/

namespace DialogScript

namespace SymbolTable

/-! ## One entry for a key -/

/-- Each store of the registry has one entry for a key. -/
structure Distinct (t : SymbolTable) : Prop where
  options : (Keyed.keys t.options).Nodup
  tracked : (Keyed.keys t.tracked).Nodup
  singletons : (Keyed.keys t.singletons).Nodup
  conditionals : (Keyed.keys t.conditionals).Nodup
  assignments : (Keyed.keys t.assignments).Nodup

namespace Distinct

variable {t u : SymbolTable}

theorem empty : Distinct {} :=
  ⟨List.nodup_nil, List.nodup_nil, List.nodup_nil, List.nodup_nil, List.nodup_nil⟩

theorem records (h : t.Distinct) : ∀ kind, (Keyed.keys (t.records kind)).Nodup
  | .conditionals => h.conditionals
  | .assignments => h.assignments

theorem log (h : t.Distinct) (e : Undo) : (t.log e).Distinct := by
  unfold SymbolTable.log
  split
  · exact h
  · exact { h with }

theorem withRecords (h : t.Distinct) (kind : RecordKind) {records : List (Int × Record)}
    (hr : (Keyed.keys records).Nodup) : (t.withRecords kind records).Distinct := by
  cases kind with
  | conditionals => exact { h with conditionals := hr }
  | assignments => exact { h with assignments := hr }

theorem setMember (h : t.Distinct) (kind : RecordKind) (id : Int) (key : String)
    (value : Option Value) : (t.setMember kind id key value).Distinct := by
  unfold SymbolTable.setMember
  split
  · exact (h.withRecords kind (Keyed.nodup_keys_put (h.records kind) id _)).log _
  · exact h

theorem setMembers (h : t.Distinct) (kind : RecordKind) (id : Int)
    (fields : List (String × Option Value)) :
    (fields.foldl (fun t f => t.setMember kind id f.1 f.2) t).Distinct := by
  induction fields generalizing t with
  | nil => exact h
  | cons f rest ih => exact ih (h.setMember kind id f.1 f.2)

theorem apply (h : t.Distinct) (w : Write) : (t.apply w).Distinct := by
  cases w with
  | declare name value =>
    show (t.declare name value).2.Distinct
    unfold SymbolTable.declare
    split
    · refine Distinct.log ?_ _
      exact { h with }
    · refine Distinct.log (Distinct.log ?_ _) _
      exact { h with }
  | overwrite name value =>
    refine Distinct.log ?_ _
    exact { h with }
  | setOptions kind name value =>
    refine Distinct.log ?_ _
    exact { h with options := Keyed.nodup_keys_put h.options _ _ }
  | appendTracked list item =>
    show (t.appendTracked list item).Distinct
    unfold SymbolTable.appendTracked
    split
    · refine Distinct.log ?_ _
      exact { h with tracked := Keyed.nodup_keys_put h.tracked _ _ }
    · refine Distinct.log (Distinct.log ?_ _) _
      exact { h with tracked := Keyed.nodup_keys_put h.tracked _ _ }
  | setSingleton which value =>
    refine Distinct.log ?_ _
    exact { h with singletons := Keyed.nodup_keys_put h.singletons _ _ }
  | setRecord kind id value =>
    exact (h.withRecords kind (Keyed.nodup_keys_put (h.records kind) id _)).log _

theorem updateRecord (h : t.Distinct) {kind : RecordKind} {id : Int}
    {fields : List (String × Option Value)} {found : Bool}
    (hu : t.updateRecord kind id fields = .ok (found, u)) : u.Distinct := by
  unfold SymbolTable.updateRecord at hu
  split at hu
  · cases hu
    exact h
  · split at hu
    · cases hu
    · cases hu
      exact h.setMembers kind id fields

theorem undo (h : t.Distinct) (e : Undo) : (t.undo e).Distinct := by
  cases e with
  | restoreOptions kind name previous =>
    exact { h with options := Keyed.nodup_keys_restore h.options (kind, name) previous }
  | dropTracked list =>
    exact { h with tracked := Keyed.nodup_keys_restore h.tracked list none }
  | popTracked list =>
    exact { h with tracked := (Keyed.keys_modify list _ t.tracked).symm ▸ h.tracked }
  | restoreSingleton which previous =>
    exact { h with singletons := Keyed.nodup_keys_restore h.singletons which previous }
  | restoreRecord kind id previous =>
    exact h.withRecords kind (Keyed.nodup_keys_restore (h.records kind) id previous)
  | restoreMember kind id generation key previous =>
    refine h.withRecords kind ?_
    rw [Keyed.keys_modify]
    exact h.records kind
  | _ => exact { h with }

theorem rollback (h : t.Distinct) : t.rollback.Distinct := by
  unfold SymbolTable.rollback
  cases t.journals with
  | nil => exact h
  | cons journal outer =>
    have hback : (journal.foldl SymbolTable.undo t).Distinct := by
      induction journal generalizing t with
      | nil => exact h
      | cons e rest ih => exact ih (h.undo e)
    exact { hback with }

end Distinct

theorem Reachable.distinct {t : SymbolTable} (h : t.Reachable) : t.Distinct := by
  induction h with
  | empty => exact .empty
  | apply _ w ih => exact ih.apply w
  | updateRecord _ _ _ _ _ hu ih => exact ih.updateRecord hu
  | mutate _ name f ih => exact { ih with }
  | openJournal _ ih => exact { ih with }
  | commit _ ih => exact { ih with }
  | rollback _ ih => exact ih.rollback

/-! ## The registry under its text keys -/

/-- The records of a kind under their text keys. -/
def recordEntries (t : SymbolTable) (kind : RecordKind) : List (String × Option Value) :=
  (t.records kind).map fun r => (kind.keyText r.1, some r.2.value)

/-- All records of a kind as one entry, if there are any. -/
def recordsEntry? (t : SymbolTable) (kind : RecordKind) : Option (String × Value) :=
  if (t.records kind).isEmpty then none else some (kind.name, .map (t.recordEntries kind))

/-- The option maps under their text keys. -/
def optionEntries (t : SymbolTable) : List (String × Value) :=
  t.options.map fun o => (optionKey o.1.1 o.1.2, o.2)

/-- What stands under the fixed keys. -/
def fixedEntries (t : SymbolTable) : List (String × Value) :=
  t.tracked.map (fun l => (l.1.name, Value.array l.2)) ++
    t.singletons.map (fun e => (e.1.name, e.2)) ++ RecordKind.all.filterMap t.recordsEntry?

/-- The registry under its text keys, in the order in which it is handed on. -/
def registry (t : SymbolTable) : List (String × Value) := t.optionEntries ++ t.fixedEntries

/-- The named values. -/
def boundValues (t : SymbolTable) : List (String × Value) :=
  t.bindings.map fun entry => (entry.1, entry.2.value)

theorem lookup_boundValues (t : SymbolTable) (name : String) :
    t.boundValues.lookup name = t.lookup name :=
  Keyed.lookup_map_snd Binding.value t.bindings name

/-! ## Their text keys differ -/

section

variable {t : SymbolTable}

theorem keys_trackedEntries :
    Keyed.keys (t.tracked.map fun l => (l.1.name, Value.array l.2)) ⊆
      TrackedList.all.map TrackedList.name := by
  simp only [Keyed.keys, List.map_map, List.subset_def, List.forall_mem_map, Function.comp_apply]
  exact fun l _ => l.1.mem_names

theorem keys_singletonEntries :
    Keyed.keys (t.singletons.map fun e => (e.1.name, e.2)) ⊆
      Singleton.all.map Singleton.name := by
  simp only [Keyed.keys, List.map_map, List.subset_def, List.forall_mem_map, Function.comp_apply]
  exact fun e _ => e.1.mem_names

theorem keys_recordsEntries (kinds : List RecordKind) :
    (Keyed.keys (kinds.filterMap t.recordsEntry?)).Sublist (kinds.map RecordKind.name) := by
  induction kinds with
  | nil => exact .slnil
  | cons kind rest ih =>
    unfold Keyed.keys at ih ⊢
    rw [List.filterMap_cons]
    split
    · exact ih.cons _
    · rename_i entry hentry
      unfold recordsEntry? at hentry
      split at hentry
      · cases hentry
      · cases hentry
        exact ih.cons_cons _

theorem keys_fixedEntries : Keyed.keys t.fixedEntries ⊆ fixedKeys := by
  unfold Keyed.keys fixedEntries fixedKeys
  rw [List.map_append, List.map_append]
  exact List.append_subset.2 ⟨List.append_subset.2
    ⟨List.subset_append_of_subset_left _ (List.subset_append_of_subset_left _ keys_trackedEntries),
      List.subset_append_of_subset_left _ (List.subset_append_of_subset_right _
        keys_singletonEntries)⟩,
    List.subset_append_of_subset_right _ (keys_recordsEntries RecordKind.all).subset⟩

namespace Distinct

theorem optionEntries (h : t.Distinct) : (Keyed.keys t.optionEntries).Nodup :=
  Keyed.nodup_keys_map (fun _ _ heq => Prod.ext (optionKey_inj heq).1 (optionKey_inj heq).2) id
    h.options

theorem recordEntries (h : t.Distinct) (kind : RecordKind) :
    (Keyed.keys (t.recordEntries kind)).Nodup :=
  Keyed.nodup_keys_map (fun _ _ => RecordKind.keyText_inj) (fun r : Record => some r.value)
    (h.records kind)

theorem fixedEntries (h : t.Distinct) : (Keyed.keys t.fixedEntries).Nodup := by
  -- The fixed keys differ, and each store has its own of them.
  have hfixed := nodup_fixedKeys
  unfold fixedKeys at hfixed
  rw [List.nodup_append, List.nodup_append] at hfixed
  obtain ⟨⟨-, -, hsingles⟩, hnames, hkinds⟩ := hfixed
  unfold SymbolTable.fixedEntries Keyed.keys
  rw [List.map_append, List.map_append, List.nodup_append, List.nodup_append]
  refine ⟨⟨Keyed.nodup_keys_map (fun _ _ => TrackedList.name_inj) _ h.tracked,
    Keyed.nodup_keys_map (fun _ _ => Singleton.name_inj) id h.singletons,
    fun a ha b hb => hsingles a (keys_trackedEntries ha) b (keys_singletonEntries hb)⟩,
    hnames.sublist (keys_recordsEntries _),
    fun a ha b hb => hkinds a ?_ b ((keys_recordsEntries _).subset hb)⟩
  rcases List.mem_append.1 ha with hlist | hsingle
  · exact List.mem_append_left _ (keys_trackedEntries hlist)
  · exact List.mem_append_right _ (keys_singletonEntries hsingle)

/-- The text keys of the registry differ. -/
theorem registry (h : t.Distinct) : (Keyed.keys t.registry).Nodup := by
  unfold SymbolTable.registry Keyed.keys
  rw [List.map_append, List.nodup_append]
  refine ⟨h.optionEntries, h.fixedEntries, fun a ha b hb heq => ?_⟩
  subst heq
  obtain ⟨_, hentry, rfl⟩ := List.mem_map.1 ha
  obtain ⟨o, -, rfl⟩ := List.mem_map.1 hentry
  exact optionKey_not_mem_fixedKeys _ _ (keys_fixedEntries hb)

end Distinct

end

/-! ## The flat list -/

section

variable {t : SymbolTable}

/-- The numbers of all records can be written. -/
def Writable (t : SymbolTable) : Prop :=
  ∀ kind, ∀ r ∈ t.records kind, Numeral.isWritable r.1 = true

/-- The registry put on the named values. -/
def flattened (t : SymbolTable) : List (String × Value) :=
  t.registry.foldl (fun flat e => Keyed.put e.1 e.2 flat) t.boundValues

/-- A computation gives a certain result under a condition, and without it breaks down on a number
that cannot be written. -/
def WritesIf {α : Type} (c : Prop) (x : Except Breakdown α) (a : α) : Prop :=
  (c ∧ x = .ok a) ∨ (¬c ∧ x = .error .longIntegerText)

namespace WritesIf

variable {α β : Type} {c : Prop} {x : Except Breakdown α} {a : α}

theorem bind {f : α → Except Breakdown β} {b : β} (h : WritesIf c x a) (hf : f a = .ok b) :
    WritesIf c (x >>= f) b := by
  obtain ⟨hc, rfl⟩ | ⟨hc, rfl⟩ := h
  · exact .inl ⟨hc, hf⟩
  · exact .inr ⟨hc, rfl⟩

theorem congr {c' : Prop} (h : WritesIf c x a) (hc : c ↔ c') : WritesIf c' x a := by
  rwa [← propext hc]

/-- A fold writes all its items, or breaks down on the first that cannot be written. -/
theorem foldlM {p : β → Prop} {f : α → β → Except Breakdown α} {g : α → β → α}
    (hf : ∀ a b, WritesIf (p b) (f a b) (g a b)) (bs : List β) (a : α) :
    WritesIf (∀ b ∈ bs, p b) (bs.foldlM f a) (bs.foldl g a) := by
  induction bs generalizing a with
  | nil => exact .inl ⟨fun _ h => absurd h List.not_mem_nil, rfl⟩
  | cons b rest ih =>
    rw [List.foldlM_cons, List.foldl_cons]
    obtain ⟨hb, hfirst⟩ | ⟨hb, hfirst⟩ := hf a b
    · rw [hfirst]
      refine (ih (g a b)).congr ?_
      rw [List.forall_mem_cons, and_iff_right hb]
    · rw [hfirst]
      exact .inr ⟨fun hall => hb (hall b List.mem_cons_self), rfl⟩

end WritesIf

/-- Records come under their text keys if their numbers can be written. -/
theorem recordView_writes (h : t.Distinct) (kind : RecordKind) :
    WritesIf (∀ r ∈ t.records kind, Numeral.isWritable r.1 = true) (t.recordView kind)
      (t.recordEntries kind) := by
  have hkey (id : Int) :
      WritesIf (Numeral.isWritable id = true) (kind.key id) (kind.keyText id) := by
    rw [RecordKind.key_eq]
    split
    · next hw => exact .inl ⟨hw, rfl⟩
    · next hw => exact .inr ⟨hw, rfl⟩
  have hfold : (t.records kind).foldl
      (fun l r => Keyed.put (kind.keyText r.1) (some r.2.value) l) [] = t.recordEntries kind := by
    have hput : (t.recordEntries kind).foldl (fun l e => Keyed.put e.1 e.2 l) [] =
        t.recordEntries kind := Keyed.foldl_put (h.recordEntries kind)
    refine Eq.trans ?_ hput
    rw [recordEntries, List.foldl_map]
  rw [← hfold, recordView]
  refine .foldlM (fun entries r => ?_) (t.records kind) []
  exact (hkey r.1).bind rfl

/-- The records of a kind are added as one entry, if there are any. -/
theorem addRecords_writes (h : t.Distinct) (flat : List (String × Value)) (kind : RecordKind) :
    WritesIf (∀ r ∈ t.records kind, Numeral.isWritable r.1 = true) (t.addRecords flat kind)
      ((t.recordsEntry? kind).elim flat fun e => Keyed.put e.1 e.2 flat) := by
  unfold addRecords recordsEntry?
  by_cases he : (t.records kind).isEmpty = true
  · have hnil : t.records kind = [] := List.isEmpty_iff.1 he
    rw [if_pos he, if_pos he, hnil]
    exact .inl ⟨fun _ hr => absurd hr List.not_mem_nil, rfl⟩
  · rw [if_neg he, if_neg he]
    exact (recordView_writes h kind).bind rfl

/-- A table is handed on as the registry put on the named values, unless the number of a record
cannot be written: then that breaks down. -/
theorem flatten_writes (h : t.Distinct) : WritesIf t.Writable t.flatten t.flattened := by
  have hrecords := WritesIf.foldlM (addRecords_writes h) RecordKind.all
    ((t.optionEntries ++ (t.tracked.map (fun l => (l.1.name, Value.array l.2)) ++
      t.singletons.map (fun e => (e.1.name, e.2)))).foldl
        (fun l e => Keyed.put e.1 e.2 l) t.boundValues)
  have hfilter (flat : List (String × Value)) :
      RecordKind.all.foldl (fun flat kind =>
        (t.recordsEntry? kind).elim flat fun e => Keyed.put e.1 e.2 flat) flat =
      (RecordKind.all.filterMap t.recordsEntry?).foldl (fun l e => Keyed.put e.1 e.2 l) flat := by
    rw [List.foldl_filterMap]
    congr
    funext flat kind
    cases t.recordsEntry? kind <;> rfl
  -- The records are put on the rest of the registry, which all has texts for its keys.
  rw [hfilter, ← List.foldl_append, List.append_assoc] at hrecords
  have hall : (∀ kind ∈ RecordKind.all, ∀ r ∈ t.records kind, Numeral.isWritable r.1 = true) ↔
      t.Writable := forall_congr' fun kind => forall_prop_of_true kind.mem_all
  rw [optionEntries, List.foldl_append, List.foldl_append, List.foldl_map, List.foldl_map,
    List.foldl_map] at hrecords
  exact hrecords.congr hall

/-- What is handed on, where that does not break down. -/
theorem flatten_ok (h : t.Distinct) {flat : List (String × Value)} (hf : t.flatten = .ok flat) :
    flat = t.flattened := by
  obtain ⟨-, hflat⟩ | ⟨-, hlong⟩ := flatten_writes h
  · exact Except.ok.inj (hf.symm.trans hflat)
  · rw [hf] at hlong
    cases hlong

/-- Handing on breaks down exactly if the number of a record cannot be written. -/
theorem flatten_error (h : t.Distinct) {b : Breakdown} :
    t.flatten = .error b ↔ ¬t.Writable ∧ b = .longIntegerText := by
  obtain ⟨hw, hflat⟩ | ⟨hlong, hflat⟩ := flatten_writes h
  · rw [hflat]
    exact iff_of_false nofun fun h => h.1 hw
  · rw [hflat, Except.error.injEq, and_iff_right hlong]
    exact eq_comm

/-- The registry is looked through first, then the named values. -/
theorem lookup_flattened (h : t.Distinct) (key : String) :
    t.flattened.lookup key = (t.registry.lookup key).or (t.lookup key) := by
  rw [flattened, Keyed.lookup_foldl_put, Keyed.latest_of_nodup h.registry, lookup_boundValues]

theorem lookup_flattened_of_mem (h : t.Distinct) {key : String} {v : Value}
    (hmem : (key, v) ∈ t.registry) : t.flattened.lookup key = some v := by
  rw [lookup_flattened h, Keyed.lookup_of_mem h.registry hmem]
  rfl

theorem mem_registry_options {kind : CommandKind} {name : String} {m : Value}
    (h : t.optionsOf kind name = some m) : (optionKey kind name, m) ∈ t.registry :=
  List.mem_append_left _ (List.mem_map.2 ⟨((kind, name), m), Keyed.mem_of_lookup h, rfl⟩)

theorem mem_registry_tracked {list : TrackedList} {items : List Value}
    (h : t.trackedList list = some items) : (list.name, Value.array items) ∈ t.registry :=
  List.mem_append_right _ (List.mem_append_left _ (List.mem_append_left _
    (List.mem_map.2 ⟨(list, items), Keyed.mem_of_lookup h, rfl⟩)))

theorem mem_registry_singleton {which : Singleton} {v : Value} (h : t.singleton which = some v) :
    (which.name, v) ∈ t.registry :=
  List.mem_append_right _ (List.mem_append_left _ (List.mem_append_right _
    (List.mem_map.2 ⟨(which, v), Keyed.mem_of_lookup h, rfl⟩)))

theorem mem_registry_records {kind : RecordKind} (h : t.records kind ≠ []) :
    (kind.name, Value.map (t.recordEntries kind)) ∈ t.registry :=
  List.mem_append_right _ (List.mem_append_right _
    (List.mem_filterMap.2 ⟨kind, kind.mem_all, if_neg (by simpa using h)⟩))

/-- Without named values, the flat list is the registry. -/
theorem flattened_of_unbound (h : t.Distinct) (hb : t.bindings = []) :
    t.flattened = t.registry := by
  have hbound : t.boundValues = [] := by rw [boundValues, hb]; rfl
  rw [flattened, hbound]
  exact Keyed.foldl_put h.registry

/-- A flat list has each entry of the registry under its text key. -/
structure HandedOn (t : SymbolTable) (flat : List (String × Value)) : Prop where
  options : ∀ kind name m, t.optionsOf kind name = some m →
    flat.lookup (optionKey kind name) = some m
  tracked : ∀ list items, t.trackedList list = some items →
    flat.lookup list.name = some (.array items)
  singletons : ∀ which v, t.singleton which = some v → flat.lookup which.name = some v
  records : ∀ kind id v, t.record kind id = some v → ∃ key entries,
    kind.key id = .ok key ∧ flat.lookup kind.name = some (.map entries) ∧
      entries.lookup key = some (some v)

theorem Distinct.handedOn (h : t.Distinct) (hw : t.Writable) : t.HandedOn t.flattened where
  options kind name m hm := lookup_flattened_of_mem h (mem_registry_options hm)
  tracked list items hitems := lookup_flattened_of_mem h (mem_registry_tracked hitems)
  singletons which v hv := lookup_flattened_of_mem h (mem_registry_singleton hv)
  records kind id v hv := by
    obtain ⟨r, hr, rfl⟩ := Option.map_eq_some_iff.1 hv
    have hmem := Keyed.mem_of_lookup hr
    exact ⟨kind.keyText id, t.recordEntries kind, RecordKind.key_eq_ok.2 ⟨hw kind _ hmem, rfl⟩,
      lookup_flattened_of_mem h (mem_registry_records (List.ne_nil_of_mem hmem)),
      Keyed.lookup_of_mem (h.recordEntries kind) (List.mem_map.2 ⟨(id, r), hmem, rfl⟩)⟩

end

end SymbolTable

/-- Different entries of the registry have different text keys: an option key tells its kind and its
name, no option key is a fixed key, and a record key tells its number, whatever its sign and length.
So handing on a table loses no entry of its registry, and without named values the flat list is the
registry. A number that cannot be written has no key, and a table with such a record is not handed
on at all. -/
theorem registryKeys_apart :
    (∀ kind other name given,
      optionKey kind name = optionKey other given ↔ kind = other ∧ name = given) ∧
    (∀ kind name, (∀ list : TrackedList, optionKey kind name ≠ list.name) ∧
      (∀ which : Singleton, optionKey kind name ≠ which.name) ∧
      ∀ records : RecordKind, optionKey kind name ≠ records.name) ∧
    (∀ (kind : RecordKind) (id other : Int), kind.keyText id = kind.keyText other ↔ id = other) ∧
    (∀ (kind : RecordKind) (id : Int) key,
      kind.key id = .ok key ↔ Numeral.isWritable id = true ∧ key = kind.keyText id) ∧
    ∀ t : SymbolTable, t.Reachable →
      (∀ b, t.flatten = .error b ↔ ¬t.Writable ∧ b = .longIntegerText) ∧
      ∀ flat, t.flatten = .ok flat →
        t.HandedOn flat ∧ (t.bindings = [] → flat = t.registry) := by
  refine ⟨fun kind other name given => ⟨optionKey_inj, ?_⟩, fun kind name => ⟨?_, ?_, ?_⟩,
    fun kind id other => ⟨RecordKind.keyText_inj, fun heq => heq ▸ rfl⟩,
    fun kind id key => RecordKind.key_eq_ok, fun t ht => ⟨fun b => ?_, fun flat hf => ?_⟩⟩
  · rintro ⟨rfl, rfl⟩
    rfl
  · intro list heq
    exact optionKey_not_mem_fixedKeys kind name (heq ▸ list.name_mem_fixedKeys)
  · intro which heq
    exact optionKey_not_mem_fixedKeys kind name (heq ▸ which.name_mem_fixedKeys)
  · intro records heq
    exact optionKey_not_mem_fixedKeys kind name (heq ▸ records.name_mem_fixedKeys)
  · exact SymbolTable.flatten_error ht.distinct
  · have hwritable : t.Writable := Classical.not_not.1 fun hlong => by
      rw [(SymbolTable.flatten_error ht.distinct).2 ⟨hlong, rfl⟩] at hf
      cases hf
    obtain rfl := SymbolTable.flatten_ok ht.distinct hf
    exact ⟨ht.distinct.handedOn hwritable, SymbolTable.flattened_of_unbound ht.distinct⟩

/-- Option maps with keys much alike, and records with numbers of five places and below zero. -/
def crowded : SymbolTable :=
  SymbolTable.applyAll {}
    [.setOptions .userSelect "MULTIPLE:A" (.integer 1),
      .setOptions .userSelectMultiple "A" (.integer 2),
      .setOptions .showParam "A" (.integer 3),
      .setOptions .showParam "PARAM_OPTIONS_A" (.integer 4),
      .setSingleton .watcherIndex (.integer 5), .appendTracked .requiredSelects (.string "A"),
      .setRecord .conditionals 12345 (.integer 6), .setRecord .conditionals (-1) (.integer 7)]

theorem registryKeys_apart_crowded :
    crowded.Reachable ∧ crowded.bindings = [] ∧ crowded.registry.length = 7 ∧
      ∃ flat, crowded.flatten = .ok flat ∧ flat = crowded.registry ∧
        flat.lookup "USER_SELECT_MULTIPLE:A" = some (.integer 2) ∧
        flat.lookup "IFS" =
          some (.map [("IF_12345", some (.integer 6)), ("IF_-001", some (.integer 7))]) := by
  have hreach : crowded.Reachable := .applyAll .empty _
  obtain ⟨hbreak, hflat⟩ := registryKeys_apart.2.2.2.2 crowded hreach
  obtain ⟨flat, hf⟩ : ∃ flat, crowded.flatten = .ok flat := ⟨_, rfl⟩
  obtain ⟨hon, hregistry⟩ := hflat flat hf
  refine ⟨hreach, rfl, rfl, flat, hf, hregistry rfl, hon.options .userSelectMultiple "A" _ rfl, ?_⟩
  rw [hregistry rfl]
  rfl

end DialogScript
