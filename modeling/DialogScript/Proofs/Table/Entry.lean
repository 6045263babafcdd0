import DialogScript.Proofs.Table.Transaction

/-!
The entries that changes leave in a journal, and the places they belong to. An entry is taken back
before or after a change at another place with the same result, so a journal that is replayed after
further changes at other places takes back what it notes and leaves those changes. The order of the
places in the table is kept as well, because an entry that restores a value finds its place taken.
-/

namespace DialogScript

/-- A place in the table that writes go to. -/
inductive Spot where
  | name (name : String)
  | options (kind : CommandKind) (name : String)
  | list (list : TrackedList)
  | singleton (which : Singleton)
  | record (kind : RecordKind) (id : Int)
  deriving DecidableEq

/-- The place that an entry takes something back at. -/
def Undo.spot : Undo → Spot
  | .restoreBinding name _ => .name name
  | .dropBaseline name => .name name
  | .uncount name _ => .name name
  | .restoreOptions kind name _ => .options kind name
  | .dropTracked list => .list list
  | .popTracked list => .list list
  | .restoreSingleton which _ => .singleton which
  | .restoreRecord kind id _ => .record kind id
  | .restoreMember kind id _ _ _ => .record kind id

namespace SymbolTable

/-! ## Places and entries -/

/-- The place that a change goes to. -/
def Change.spot : Change → Spot
  | .write (.declare name _) => .name name
  | .write (.overwrite name _) => .name name
  | .write (.setOptions kind name _) => .options kind name
  | .write (.appendTracked list _) => .list list
  | .write (.setSingleton which _) => .singleton which
  | .write (.setRecord kind id _) => .record kind id
  | .member kind id _ _ => .record kind id

/-- What a change notes, the newest entry first. -/
def entries (t : SymbolTable) : Change → List Undo
  | .write (.declare name _) =>
    match t.binding? name with
    | some b => [.uncount name b.generation]
    | none => [.dropBaseline name, .restoreBinding name none]
  | .write (.overwrite name _) => [.restoreBinding name (t.binding? name)]
  | .write (.setOptions kind name _) => [.restoreOptions kind name (t.optionsOf kind name)]
  | .write (.appendTracked list _) =>
    match t.trackedList list with
    | some _ => [.popTracked list]
    | none => [.popTracked list, .dropTracked list]
  | .write (.setSingleton which _) => [.restoreSingleton which (t.singleton which)]
  | .write (.setRecord kind id _) => [.restoreRecord kind id ((t.records kind).lookup id)]
  | .member kind id key _ =>
    match (t.records kind).lookup id with
    | some ⟨.map members, generation⟩ =>
      [.restoreMember kind id generation key (members.lookup key).join]
    | _ => []

/-- What changes note, the newest entry first. -/
def allEntries (t : SymbolTable) : List Change → List Undo
  | [] => []
  | c :: rest => (t.change c).allEntries rest ++ t.entries c

theorem spot_entries {t : SymbolTable} {c : Change} : ∀ e ∈ t.entries c, e.spot = c.spot := by
  intro e he
  cases c with
  | write w =>
    cases w with
    | declare name value =>
      simp only [entries] at he
      split at he <;> simp only [List.mem_cons, List.not_mem_nil, or_false] at he
      · rw [he]; rfl
      · rcases he with rfl | rfl <;> rfl
    | appendTracked list item =>
      simp only [entries] at he
      split at he <;> simp only [List.mem_cons, List.not_mem_nil, or_false] at he
      · rw [he]; rfl
      · rcases he with rfl | rfl <;> rfl
    | _ => rw [List.mem_singleton.1 he]; rfl
  | member kind id key value =>
    simp only [entries] at he
    split at he
    · rw [List.mem_singleton.1 he]; rfl
    · cases he

theorem spot_allEntries {t : SymbolTable} {cs : List Change} {e : Undo}
    (he : e ∈ t.allEntries cs) : e.spot ∈ cs.map Change.spot := by
  induction cs generalizing t with
  | nil => cases he
  | cons c rest ih =>
    rcases List.mem_append.1 he with he | he
    · exact List.mem_cons_of_mem _ (ih he)
    · rw [spot_entries e he]
      exact List.mem_cons_self

theorem withEntries_nil (js : List (List Undo)) : withEntries [] js = js := by cases js <;> rfl

theorem journals_withRecords (t : SymbolTable) (kind : RecordKind) (records : List (Int × Record)) :
    (t.withRecords kind records).journals = t.journals := by cases kind <;> rfl

theorem journals_change (t : SymbolTable) (c : Change) :
    (t.change c).journals = withEntries (t.entries c) t.journals := by
  cases c with
  | write w =>
    cases w with
    | declare name value =>
      show (t.declare name value).2.journals = _
      simp only [declare, entries]
      cases t.binding? name with
      | some b => exact journals_log _ _
      | none => exact journals_log_log _ _ _
    | appendTracked list item =>
      show (t.appendTracked list item).journals = _
      simp only [appendTracked, entries]
      cases t.trackedList list with
      | some items => exact journals_log _ _
      | none => exact journals_log_log _ _ _
    | setRecord kind id value =>
      exact (journals_log _ _).trans (by rw [journals_withRecords]; rfl)
    | _ => exact journals_log _ _
  | member kind id key value =>
    show (t.setMember kind id key value).journals = _
    cases hr : (t.records kind).lookup id with
    | none => simp only [setMember, entries, hr, withEntries_nil]
    | some r =>
      obtain ⟨v, generation⟩ := r
      cases v with
      | map members =>
        simp only [setMember, entries, hr]
        rw [journals_log, journals_withRecords]
      | _ => simp only [setMember, entries, hr, withEntries_nil]

theorem journals_changes (t : SymbolTable) (cs : List Change) :
    (t.changes cs).journals = withEntries (t.allEntries cs) t.journals := by
  induction cs generalizing t with
  | nil => exact (withEntries_nil _).symm
  | cons c rest ih =>
    show ((t.change c).changes rest).journals = _
    rw [ih, journals_change, withEntries_withEntries]
    rfl

/-! ## Taking back at another place -/

/-- An entry that restores a value finds its place taken, so that the order is kept. -/
def Grips (t : SymbolTable) : Undo → Prop
  | .restoreBinding name previous => previous.isSome → t.bindings.lookup name ≠ none
  | .restoreOptions kind name previous => previous.isSome → t.options.lookup (kind, name) ≠ none
  | .restoreSingleton which previous => previous.isSome → t.singletons.lookup which ≠ none
  | .restoreRecord kind id previous => previous.isSome → (t.records kind).lookup id ≠ none
  | _ => True

section

variable {t : SymbolTable} {e : Undo}

theorem undo_putBinding {name : String} (h : e.spot ≠ .name name) (hg : t.Grips e) (b : Binding) :
    undo { t with bindings := Keyed.put name b t.bindings } e =
      { t.undo e with bindings := Keyed.put name b (t.undo e).bindings } := by
  have hne (other : String) (ho : Spot.name other ≠ .name name) : other ≠ name :=
    fun h => ho (h ▸ rfl)
  cases e with
  | restoreBinding other previous =>
    simp only [undo, Keyed.restore_put_of_ne (hne other h) hg]
  | uncount other generation => simp only [undo, Keyed.modify_put_of_ne (hne other h)]
  | restoreRecord kind id previous => cases kind <;> rfl
  | restoreMember kind id generation key previous => cases kind <;> rfl
  | _ => rfl

theorem undo_putBaseline {name : String} (h : e.spot ≠ .name name) (v : Value) :
    undo { t with baselines := Keyed.put name v t.baselines } e =
      { t.undo e with baselines := Keyed.put name v (t.undo e).baselines } := by
  cases e with
  | dropBaseline other =>
    have hne : other ≠ name := fun ho => h (ho ▸ rfl)
    simp only [undo, Keyed.erase_put_of_ne hne]
  | restoreRecord kind id previous => cases kind <;> rfl
  | restoreMember kind id generation key previous => cases kind <;> rfl
  | _ => rfl

theorem undo_putOptions {kind : CommandKind} {name : String} (h : e.spot ≠ .options kind name)
    (hg : t.Grips e) (v : Value) :
    undo { t with options := Keyed.put (kind, name) v t.options } e =
      { t.undo e with options := Keyed.put (kind, name) v (t.undo e).options } := by
  cases e with
  | restoreOptions kind' other previous =>
    have hne : (kind', other) ≠ (kind, name) := fun ho => h (by cases ho; rfl)
    simp only [undo, Keyed.restore_put_of_ne hne hg]
  | restoreRecord kind id previous => cases kind <;> rfl
  | restoreMember kind id generation key previous => cases kind <;> rfl
  | _ => rfl

theorem undo_putTracked {list : TrackedList} (h : e.spot ≠ .list list) (items : List Value) :
    undo { t with tracked := Keyed.put list items t.tracked } e =
      { t.undo e with tracked := Keyed.put list items (t.undo e).tracked } := by
  have hne (other : TrackedList) (ho : Spot.list other ≠ .list list) : other ≠ list :=
    fun h => ho (h ▸ rfl)
  cases e with
  | dropTracked other => simp only [undo, Keyed.erase_put_of_ne (hne other h)]
  | popTracked other => simp only [undo, Keyed.modify_put_of_ne (hne other h)]
  | restoreRecord kind id previous => cases kind <;> rfl
  | restoreMember kind id generation key previous => cases kind <;> rfl
  | _ => rfl

theorem undo_putSingleton {which : Singleton} (h : e.spot ≠ .singleton which) (hg : t.Grips e)
    (v : Value) :
    undo { t with singletons := Keyed.put which v t.singletons } e =
      { t.undo e with singletons := Keyed.put which v (t.undo e).singletons } := by
  cases e with
  | restoreSingleton other previous =>
    have hne : other ≠ which := fun ho => h (ho ▸ rfl)
    simp only [undo, Keyed.restore_put_of_ne hne hg]
  | restoreRecord kind id previous => cases kind <;> rfl
  | restoreMember kind id generation key previous => cases kind <;> rfl
  | _ => rfl

theorem withRecords_withRecords (t : SymbolTable) (kind : RecordKind)
    (first second : List (Int × Record)) :
    (t.withRecords kind first).withRecords kind second = t.withRecords kind second := by
  cases kind <;> rfl

theorem undo_putRecord {kind : RecordKind} {id : Int} (h : e.spot ≠ .record kind id)
    (hg : t.Grips e) (r : Record) :
    (t.withRecords kind (Keyed.put id r (t.records kind))).undo e =
      (t.undo e).withRecords kind (Keyed.put id r ((t.undo e).records kind)) := by
  cases e with
  | restoreRecord other n previous =>
    by_cases ho : other = kind
    · subst ho
      have hne : n ≠ id := fun hn => h (hn ▸ rfl)
      simp only [undo, records_withRecords, if_true, withRecords_withRecords,
        Keyed.restore_put_of_ne hne hg]
    · cases other <;> cases kind <;> first | exact absurd rfl ho | rfl
  | restoreMember other n generation key previous =>
    by_cases ho : other = kind
    · subst ho
      have hne : n ≠ id := fun hn => h (hn ▸ rfl)
      simp only [undo, records_withRecords, if_true, withRecords_withRecords,
        Keyed.modify_put_of_ne hne]
    · cases other <;> cases kind <;> first | exact absurd rfl ho | rfl
  | _ => cases kind <;> rfl

/-! What an entry takes back elsewhere does not show in a reading. -/

theorem binding?_undo_of_ne {name : String} (h : e.spot ≠ .name name) :
    (t.undo e).binding? name = t.binding? name := by
  have hne (other : String) (ho : Spot.name other ≠ .name name) : name ≠ other :=
    fun h => ho (h ▸ rfl)
  cases e with
  | restoreBinding other previous => exact Keyed.lookup_restore_of_ne (hne other h) _ _
  | uncount other generation =>
    exact (Keyed.lookup_modify _ _ _ _).trans (if_neg (hne other h))
  | restoreRecord kind id previous => cases kind <;> rfl
  | restoreMember kind id generation key previous => cases kind <;> rfl
  | _ => rfl

theorem optionsOf_undo_of_ne {kind : CommandKind} {name : String}
    (h : e.spot ≠ .options kind name) : (t.undo e).optionsOf kind name = t.optionsOf kind name := by
  cases e with
  | restoreOptions kind' other previous =>
    have hne : (kind, name) ≠ (kind', other) := fun ho => h (by cases ho; rfl)
    exact Keyed.lookup_restore_of_ne hne _ _
  | restoreRecord kind id previous => cases kind <;> rfl
  | restoreMember kind id generation key previous => cases kind <;> rfl
  | _ => rfl

theorem trackedList_undo_of_ne {list : TrackedList} (h : e.spot ≠ .list list) :
    (t.undo e).trackedList list = t.trackedList list := by
  have hne (other : TrackedList) (ho : Spot.list other ≠ .list list) : list ≠ other :=
    fun h => ho (h ▸ rfl)
  cases e with
  | dropTracked other => exact Keyed.lookup_erase_of_ne (hne other h) _
  | popTracked other => exact (Keyed.lookup_modify _ _ _ _).trans (if_neg (hne other h))
  | restoreRecord kind id previous => cases kind <;> rfl
  | restoreMember kind id generation key previous => cases kind <;> rfl
  | _ => rfl

theorem singleton_undo_of_ne {which : Singleton} (h : e.spot ≠ .singleton which) :
    (t.undo e).singleton which = t.singleton which := by
  cases e with
  | restoreSingleton other previous =>
    exact Keyed.lookup_restore_of_ne (fun ho : which = other => h (ho ▸ rfl)) _ _
  | restoreRecord kind id previous => cases kind <;> rfl
  | restoreMember kind id generation key previous => cases kind <;> rfl
  | _ => rfl

theorem record_undo_of_ne {kind : RecordKind} {id : Int} (h : e.spot ≠ .record kind id) :
    ((t.undo e).records kind).lookup id = (t.records kind).lookup id := by
  cases e with
  | restoreRecord other n previous =>
    simp only [undo, records_withRecords]
    split
    · rename_i ho
      subst ho
      exact Keyed.lookup_restore_of_ne (fun hn : id = n => h (hn ▸ rfl)) _ _
    · rfl
  | restoreMember other n generation key previous =>
    simp only [undo, records_withRecords]
    split
    · rename_i ho
      subst ho
      exact (Keyed.lookup_modify _ _ _ _).trans (if_neg fun hn : id = n => h (hn ▸ rfl))
    · rfl
  | _ => cases kind <;> rfl

theorem undo_log (t : SymbolTable) (e x : Undo) : (t.log x).undo e = (t.undo e).log x := by
  have hj : (t.undo e).journals = t.journals := by
    cases e with
    | restoreRecord kind id previous => cases kind <;> rfl
    | restoreMember kind id generation key previous => cases kind <;> rfl
    | _ => rfl
  unfold log
  rw [hj]
  cases t.journals with
  | nil => rfl
  | cons journal outer => exact undo_withJournals t _ e

/-- An entry is taken back before or after a change at another place. -/
theorem undo_change {c : Change} (h : e.spot ≠ c.spot) (hg : t.Grips e) :
    (t.change c).undo e = (t.undo e).change c := by
  cases c with
  | write w =>
    cases w with
    | declare name value =>
      have hname : e.spot ≠ .name name := h
      show (t.declare name value).2.undo e = ((t.undo e).declare name value).2
      simp only [declare, binding?_undo_of_ne hname]
      cases t.binding? name with
      | some b => rw [undo_log, undo_putBinding hname hg]
      | none =>
        have hboth := undo_putBaseline
          (t := { t with bindings := Keyed.put name { value } t.bindings }) hname value
        rw [undo_putBinding hname hg] at hboth
        rw [undo_log, undo_log, hboth]
    | overwrite name value =>
      have hname : e.spot ≠ .name name := h
      show (t.overwrite name value).undo e = (t.undo e).overwrite name value
      simp only [overwrite, binding?_undo_of_ne hname]
      rw [undo_log, undo_putBinding hname hg]
    | setOptions kind name value =>
      have hoptions : e.spot ≠ .options kind name := h
      show (t.setOptions kind name value).undo e = (t.undo e).setOptions kind name value
      simp only [setOptions, optionsOf_undo_of_ne hoptions]
      rw [undo_log, undo_putOptions hoptions hg]
    | appendTracked list item =>
      have hlist : e.spot ≠ .list list := h
      show (t.appendTracked list item).undo e = (t.undo e).appendTracked list item
      simp only [appendTracked, trackedList_undo_of_ne hlist]
      cases t.trackedList list with
      | some items => rw [undo_log, undo_putTracked hlist]
      | none => rw [undo_log, undo_log, undo_putTracked hlist]
    | setSingleton which value =>
      have hwhich : e.spot ≠ .singleton which := h
      show (t.setSingleton which value).undo e = (t.undo e).setSingleton which value
      simp only [setSingleton, singleton_undo_of_ne hwhich]
      rw [undo_log, undo_putSingleton hwhich hg]
    | setRecord kind id value =>
      have hrecord : e.spot ≠ .record kind id := h
      show (t.setRecord kind id value).undo e = (t.undo e).setRecord kind id value
      simp only [setRecord, record_undo_of_ne hrecord]
      rw [undo_log, undo_putRecord hrecord hg]
  | member kind id key value =>
    have hrecord : e.spot ≠ .record kind id := h
    show (t.setMember kind id key value).undo e = (t.undo e).setMember kind id key value
    simp only [setMember, record_undo_of_ne hrecord]
    split
    · rw [undo_log, undo_putRecord hrecord hg]
    · rfl

/-- A table in which no place is taken away. -/
theorem Grips.keep {u : SymbolTable} (hg : t.Grips e)
    (hb : ∀ name, t.bindings.lookup name ≠ none → u.bindings.lookup name ≠ none)
    (ho : ∀ key, t.options.lookup key ≠ none → u.options.lookup key ≠ none)
    (hs : ∀ which, t.singletons.lookup which ≠ none → u.singletons.lookup which ≠ none)
    (hr : ∀ kind id, (t.records kind).lookup id ≠ none → (u.records kind).lookup id ≠ none) :
    u.Grips e := by
  cases e with
  | restoreBinding name previous => exact fun hp => hb name (hg hp)
  | restoreOptions kind name previous => exact fun hp => ho (kind, name) (hg hp)
  | restoreSingleton which previous => exact fun hp => hs which (hg hp)
  | restoreRecord kind id previous => exact fun hp => hr kind id (hg hp)
  | _ => trivial

theorem Grips.log (hg : t.Grips e) (x : Undo) : (t.log x).Grips e := by
  refine hg.keep ?_ ?_ ?_ fun kind id hid => by rwa [records_log]
  all_goals
    unfold SymbolTable.log
    split <;> exact fun _ h => h

theorem Grips.putRecord (hg : t.Grips e) (kind : RecordKind) (id : Int) (r : Record) :
    (t.withRecords kind (Keyed.put id r (t.records kind))).Grips e := by
  refine hg.keep ?_ ?_ ?_ fun other n hn => ?_
  · cases kind <;> exact fun _ h => h
  · cases kind <;> exact fun _ h => h
  · cases kind <;> exact fun _ h => h
  · rw [lookup_putRecord]
    split
    · exact nofun
    · exact hn

/-- No change takes a place away. -/
theorem Grips.change (hg : t.Grips e) (c : Change) : (t.change c).Grips e := by
  have same {κ ν : Type} [BEq κ] {entries : List (κ × ν)} (key : κ)
      (h : entries.lookup key ≠ none) : entries.lookup key ≠ none := h
  have put {κ ν : Type} [DecidableEq κ] [BEq κ] [LawfulBEq κ] {entries : List (κ × ν)} (key : κ)
      (v : ν) (other : κ) (h : entries.lookup other ≠ none) :
      (Keyed.put key v entries).lookup other ≠ none := Keyed.lookup_put_ne_none h key v
  cases c with
  | write w =>
    cases w with
    | declare name value =>
      show (t.declare name value).2.Grips e
      unfold declare
      split
      · refine Grips.log ?_ _
        exact hg.keep (put _ _) same same fun _ => same
      · refine Grips.log (Grips.log ?_ _) _
        exact hg.keep (put _ _) same same fun _ => same
    | overwrite name value =>
      refine Grips.log ?_ _
      exact hg.keep (put _ _) same same fun _ => same
    | setOptions kind name value =>
      refine Grips.log ?_ _
      exact hg.keep same (put _ _) same fun _ => same
    | appendTracked list item =>
      show (t.appendTracked list item).Grips e
      unfold appendTracked
      split
      · refine Grips.log ?_ _
        exact hg.keep same same same fun _ => same
      · refine Grips.log (Grips.log ?_ _) _
        exact hg.keep same same same fun _ => same
    | setSingleton which value =>
      refine Grips.log ?_ _
      exact hg.keep same same (put _ _) fun _ => same
    | setRecord kind id value => exact Grips.log (hg.putRecord kind id _) _
  | member kind id key value =>
    show (t.setMember kind id key value).Grips e
    unfold setMember
    split
    · exact Grips.log (hg.putRecord kind id _) _
    · exact hg

end

/-! ## Replaying what changes note -/

/-- Replaying a journal, each entry that restores a value finds its place taken. -/
def Replays (t : SymbolTable) : List Undo → Prop
  | [] => True
  | e :: rest => t.Grips e ∧ (t.undo e).Replays rest

theorem replays_append {t : SymbolTable} {first second : List Undo} :
    t.Replays (first ++ second) ↔ t.Replays first ∧ (t.replay first).Replays second := by
  induction first generalizing t with
  | nil => exact (iff_of_eq (true_and _)).symm
  | cons e rest ih =>
    simp only [List.cons_append, Replays, ih, and_assoc]
    rfl

theorem Grips.withJournals {t : SymbolTable} {e : Undo} (h : t.Grips e) (js : List (List Undo)) :
    (t.withJournals js).Grips e := by
  cases e with
  | restoreRecord kind id previous => cases kind <;> exact h
  | _ => exact h

theorem Replays.withJournals {t : SymbolTable} {journal : List Undo} (h : t.Replays journal)
    (js : List (List Undo)) : (t.withJournals js).Replays journal := by
  induction journal generalizing t with
  | nil => trivial
  | cons e rest ih =>
    refine ⟨h.1.withJournals js, ?_⟩
    rw [undo_withJournals]
    exact ih h.2

theorem Replays.of_contents {t u : SymbolTable} {journal : List Undo} (h : t.Replays journal)
    (hc : t.contents = u.contents) : u.Replays journal := by
  have hu : u = t.contents.withJournals u.journals := by rw [hc]; rfl
  rw [hu]
  exact (h.withJournals []).withJournals u.journals

/-- What one change notes finds the places taken that the change has left. -/
theorem replays_entries (t : SymbolTable) (c : Change) : (t.change c).Replays (t.entries c) := by
  cases c with
  | write w =>
    cases w with
    | declare name value =>
      simp only [entries]
      split
      · exact ⟨trivial, trivial⟩
      · exact ⟨trivial, nofun, trivial⟩
    | overwrite name value =>
      refine ⟨Grips.log ?_ _, trivial⟩
      exact fun _ => Keyed.lookup_put_self_ne_none _ _ _
    | setOptions kind name value =>
      refine ⟨Grips.log ?_ _, trivial⟩
      exact fun _ => Keyed.lookup_put_self_ne_none _ _ _
    | appendTracked list item =>
      simp only [entries]
      split
      · exact ⟨trivial, trivial⟩
      · exact ⟨trivial, trivial, trivial⟩
    | setSingleton which value =>
      refine ⟨Grips.log ?_ _, trivial⟩
      exact fun _ => Keyed.lookup_put_self_ne_none _ _ _
    | setRecord kind id value =>
      refine ⟨Grips.log ?_ _, trivial⟩
      intro _
      rw [lookup_putRecord, if_pos ⟨rfl, rfl⟩]
      exact nofun
  | member kind id key value =>
    simp only [entries]
    split
    · exact ⟨trivial, trivial⟩
    · trivial

/-- A journal is replayed before or after a change at a place apart from it. -/
theorem replay_change {t : SymbolTable} {journal : List Undo} (h : t.Replays journal) {c : Change}
    (ha : ∀ e ∈ journal, e.spot ≠ c.spot) :
    (t.change c).replay journal = (t.replay journal).change c ∧
      (t.change c).Replays journal := by
  induction journal generalizing t with
  | nil => exact ⟨rfl, trivial⟩
  | cons e rest ih =>
    obtain ⟨hfirst, hrest⟩ := List.forall_mem_cons.1 ha
    have hundo := undo_change hfirst h.1
    obtain ⟨hreplay, hreplays⟩ := ih h.2 hrest
    refine ⟨?_, h.1.change c, hundo ▸ hreplays⟩
    show ((t.change c).undo e).replay rest = _
    rw [hundo, hreplay]
    rfl

theorem replay_changes {t : SymbolTable} {journal : List Undo} (h : t.Replays journal)
    {cs : List Change} (ha : ∀ e ∈ journal, ∀ c ∈ cs, e.spot ≠ c.spot) :
    (t.changes cs).replay journal = (t.replay journal).changes cs := by
  induction cs generalizing t with
  | nil => rfl
  | cons c rest ih =>
    obtain ⟨hreplay, hreplays⟩ := replay_change h fun e he => ha e he c List.mem_cons_self
    show ((t.change c).changes rest).replay journal = ((t.replay journal).change c).changes rest
    rw [ih hreplays fun e he d hd => ha e he d (List.mem_cons_of_mem c hd), hreplay]

/-! ## Contents -/

theorem contents_change (t : SymbolTable) (c : Change) :
    (t.change c).contents = t.contents.change c := by
  cases c with
  | write w => exact contents_apply t w
  | member kind id key value =>
    show (t.setMember kind id key value).contents = t.contents.setMember kind id key value
    have hrecords : t.contents.records kind = t.records kind := by cases kind <;> rfl
    unfold setMember
    rw [hrecords]
    split
    · rw [contents_log]
      cases kind <;> rfl
    · rfl

theorem contents_changes (t : SymbolTable) (cs : List Change) :
    (t.changes cs).contents = t.contents.changes cs := by
  induction cs generalizing t with
  | nil => rfl
  | cons c rest ih =>
    show ((t.change c).changes rest).contents = (t.contents.change c).changes rest
    rw [ih, contents_change]

theorem entries_contents (t : SymbolTable) (c : Change) : t.contents.entries c = t.entries c := by
  cases c with
  | write w =>
    cases w with
    | setRecord kind id value => cases kind <;> rfl
    | _ => rfl
  | member kind id key value => cases kind <;> rfl

theorem allEntries_contents (t : SymbolTable) (cs : List Change) :
    t.contents.allEntries cs = t.allEntries cs := by
  induction cs generalizing t with
  | nil => rfl
  | cons c rest ih =>
    simp only [allEntries]
    rw [← contents_change, ih, entries_contents]

/-- Replaying what changes note gives the contents before them. -/
theorem replay_allEntries {t : SymbolTable} (h : t.Reachable) (hf : t.FilledRecords)
    {cs : List Change} (hc : ∀ c ∈ cs, c.isFilled = true) :
    ((t.changes cs).replay (t.allEntries cs)).contents = t.contents := by
  obtain ⟨new, hj, hr⟩ := noted_changes h.openJournal hf hc [] t.journals rfl
  have hopen : t.openJournal.allEntries cs = t.allEntries cs :=
    (allEntries_contents t.openJournal cs).symm.trans (allEntries_contents t cs)
  have hnew : new = t.allEntries cs := by
    rw [journals_changes, hopen] at hj
    simpa [withEntries, openJournal] using (List.cons.inj hj).1.symm
  rw [contents_replay, contents_changes, ← hnew]
  rw [contents_replay, contents_changes] at hr
  exact hr

theorem replays_allEntries {t : SymbolTable} (h : t.Reachable) (hf : t.FilledRecords)
    {cs : List Change} (hc : ∀ c ∈ cs, c.isFilled = true) :
    (t.changes cs).Replays (t.allEntries cs) := by
  induction cs generalizing t with
  | nil => trivial
  | cons c rest ih =>
    obtain ⟨hfirst, hrest⟩ := List.forall_mem_cons.1 hc
    refine replays_append.2 ⟨ih (h.change c) (hf.change hfirst) hrest, ?_⟩
    exact (replays_entries t c).of_contents
      (replay_allEntries (h.change c) (hf.change hfirst) hrest).symm

/-- Changes stand when earlier ones, at other places, are taken back under them. -/
theorem replay_apart {t : SymbolTable} (h : t.Reachable) (hf : t.FilledRecords)
    {first second : List Change} (hc : ∀ c ∈ first, c.isFilled = true)
    (hapart : ∀ spot ∈ first.map Change.spot, spot ∉ second.map Change.spot) :
    ((t.contents.changes first).changes second).replay (t.allEntries first) =
      t.contents.changes second := by
  have hreplays : (t.contents.changes first).Replays (t.allEntries first) := by
    rw [← contents_changes]
    exact (replays_allEntries h hf hc).of_contents rfl
  have hback : (t.contents.changes first).replay (t.allEntries first) = t.contents := by
    rw [← contents_changes, ← contents_replay]
    exact replay_allEntries h hf hc
  have hne : ∀ e ∈ t.allEntries first, ∀ c ∈ second, e.spot ≠ c.spot := fun e he c hmem heq =>
    hapart e.spot (spot_allEntries he) (heq ▸ List.mem_map_of_mem hmem)
  rw [replay_changes hreplays hne, hback]

end SymbolTable

end DialogScript
