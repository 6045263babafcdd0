import DialogScript.Proofs.Table.Entry

/-!
A transaction that is committed inside one that fails. The outer journal is replayed on what the
inner transaction has left. Where the two have written to different places, each entry of the outer
journal finds its place as it was, and the inner writes come out as if they had been made alone.
Where both have written to a place, the outer journal does not tell their writes apart: an entry
that is restored is what it was before the outer transaction, and a shared list loses as many items
from its end as the outer transaction has appended.
-/

namespace DialogScript

namespace SymbolTable

/-! ## Entries that are restored -/

theorem replay_of_ne {α : Type} (read : SymbolTable → α) {spot : Spot}
    (hundo : ∀ (t : SymbolTable) (e : Undo), e.spot ≠ spot → read (t.undo e) = read t)
    {journal : List Undo} (h : ∀ e ∈ journal, e.spot ≠ spot) (t : SymbolTable) :
    read (t.replay journal) = read t := by
  induction journal generalizing t with
  | nil => rfl
  | cons e rest ih =>
    obtain ⟨hfirst, hrest⟩ := List.forall_mem_cons.1 h
    exact (ih hrest (t.undo e)).trans (hundo t e hfirst)

/-- A reading of one place, where what a change notes is the reading before it. -/
structure Restores {α : Type} (read : SymbolTable → α) (spot : Spot) : Prop where
  undo : ∀ (t : SymbolTable) (e : Undo), e.spot ≠ spot → read (t.undo e) = read t
  change : ∀ (t : SymbolTable) (c : Change), c.spot ≠ spot → read (t.change c) = read t
  back : ∀ (t u : SymbolTable) (c : Change), c.spot = spot → read (u.replay (t.entries c)) = read t

/-- Whatever has been written since, the place reads as it did before the first of the changes. -/
theorem Restores.replay {α : Type} {read : SymbolTable → α} {spot : Spot} (h : Restores read spot)
    (t u : SymbolTable) (cs : List Change) :
    read (u.replay (t.allEntries cs)) =
      if spot ∈ cs.map Change.spot then read t else read u := by
  induction cs generalizing t with
  | nil => rfl
  | cons c rest ih =>
    rw [allEntries, replay_append, List.map_cons]
    by_cases hc : c.spot = spot
    · rw [h.back t _ c hc, if_pos (hc ▸ List.mem_cons_self)]
    · have hne : ∀ e ∈ t.entries c, e.spot ≠ spot := fun e he => spot_entries e he ▸ hc
      have hmem : spot ∈ c.spot :: rest.map Change.spot ↔ spot ∈ rest.map Change.spot :=
        List.mem_cons.trans (or_iff_right fun hs => hc hs.symm)
      rw [replay_of_ne read h.undo hne, ih, h.change t c hc]
      simp only [hmem]

/-- A change at another place keeps an option map. -/
theorem optionsOf_change_of_ne {t : SymbolTable} {kind : CommandKind} {name : String} {c : Change}
    (h : c.spot ≠ .options kind name) :
    (t.change c).optionsOf kind name = t.optionsOf kind name := by
  -- Without a journal nothing is noted, so that only the change itself is left to look at.
  show (t.change c).contents.optionsOf kind name = t.contents.optionsOf kind name
  rw [contents_change]
  cases c with
  | write w =>
    cases w with
    | declare other value =>
      show (t.contents.declare other value).2.optionsOf kind name = _
      unfold declare
      split <;> rfl
    | setOptions kind' other value =>
      have hne : (kind, name) ≠ (kind', other) := fun ho => h (by cases ho; rfl)
      exact Keyed.lookup_put_of_ne hne _ _
    | appendTracked list item =>
      show (t.contents.appendTracked list item).optionsOf kind name = _
      unfold appendTracked
      split <;> rfl
    | setRecord kind' id value => cases kind' <;> rfl
    | _ => rfl
  | member kind' id key value =>
    show (t.contents.setMember kind' id key value).optionsOf kind name = _
    unfold setMember
    split
    · cases kind' <;> rfl
    · rfl

/-- A change at another place keeps an entry that exists once. -/
theorem singleton_change_of_ne {t : SymbolTable} {which : Singleton} {c : Change}
    (h : c.spot ≠ .singleton which) : (t.change c).singleton which = t.singleton which := by
  show (t.change c).contents.singleton which = t.contents.singleton which
  rw [contents_change]
  cases c with
  | write w =>
    cases w with
    | declare other value =>
      show (t.contents.declare other value).2.singleton which = _
      unfold declare
      split <;> rfl
    | setSingleton other value =>
      exact Keyed.lookup_put_of_ne (fun ho : which = other => h (ho ▸ rfl)) _ _
    | appendTracked list item =>
      show (t.contents.appendTracked list item).singleton which = _
      unfold appendTracked
      split <;> rfl
    | setRecord kind' id value => cases kind' <;> rfl
    | _ => rfl
  | member kind' id key value =>
    show (t.contents.setMember kind' id key value).singleton which = _
    unfold setMember
    split
    · cases kind' <;> rfl
    · rfl

theorem restores_optionsOf (kind : CommandKind) (name : String) :
    Restores (fun t => t.optionsOf kind name) (.options kind name) where
  undo _ _ h := optionsOf_undo_of_ne h
  change _ _ h := optionsOf_change_of_ne h
  back t u c h := by
    cases c with
    | write w =>
      cases w with
      | setOptions kind' other value =>
        cases h
        exact Keyed.lookup_restore_self _ _ _
      | _ => cases h
    | member kind' id key value => cases h

theorem restores_singleton (which : Singleton) :
    Restores (fun t => t.singleton which) (.singleton which) where
  undo _ _ h := singleton_undo_of_ne h
  change _ _ h := singleton_change_of_ne h
  back t u c h := by
    cases c with
    | write w =>
      cases w with
      | setSingleton other value =>
        cases h
        exact Keyed.lookup_restore_self _ _ _
      | _ => cases h
    | member kind' id key value => cases h

/-! ## Items that are taken back -/

/-- The items that a change appends to a list. -/
def Change.appends (list : TrackedList) : Change → List Value
  | .write (.appendTracked other item) => if other = list then [item] else []
  | _ => []

theorem trackedList_change (t : SymbolTable) (list : TrackedList) (c : Change) :
    (t.change c).trackedList list = Keyed.extended (t.trackedList list) (c.appends list) := by
  show (t.change c).contents.trackedList list = Keyed.extended (t.contents.trackedList list) _
  rw [contents_change]
  cases c with
  | write w =>
    cases w with
    | declare name value =>
      show (t.contents.declare name value).2.trackedList list = _
      unfold declare
      split <;> rfl
    | appendTracked other item =>
      show (t.contents.appendTracked other item).trackedList list = _
      by_cases ho : other = list
      · subst ho
        have hone : (Change.write (.appendTracked other item)).appends other = [item] := if_pos rfl
        rw [hone]
        unfold appendTracked
        cases hl : t.contents.trackedList other <;> exact Keyed.lookup_put_self _ _ _
      · have hnone : (Change.write (.appendTracked other item)).appends list = [] := if_neg ho
        rw [hnone]
        unfold appendTracked
        cases hl : t.contents.trackedList other <;> exact Keyed.lookup_put_of_ne (Ne.symm ho) _ _
    | setRecord kind id value => cases kind <;> rfl
    | _ => rfl
  | member kind id key value =>
    show (t.contents.setMember kind id key value).trackedList list = _
    unfold setMember
    split
    · cases kind <;> rfl
    · rfl

theorem trackedList_changes (t : SymbolTable) (list : TrackedList) (cs : List Change) :
    (t.changes cs).trackedList list =
      Keyed.extended (t.trackedList list) (cs.flatMap (Change.appends list)) := by
  induction cs generalizing t with
  | nil => rfl
  | cons c rest ih =>
    show ((t.change c).changes rest).trackedList list = _
    rw [ih, trackedList_change, Keyed.extended_extended, List.flatMap_cons]

/-- A list without some items from its end. It is gone if it had not been there before them. -/
def shortened (found : Bool) (count : Nat) (items : Option (List Value)) : Option (List Value) :=
  if found || count == 0 then items.map fun xs => xs.take (xs.length - count) else none

theorem shortened_zero (found : Bool) (items : Option (List Value)) :
    shortened found 0 items = items := by
  cases items <;> simp [shortened]

theorem shortened_shortened (found : Bool) (first second : Nat) (items : Option (List Value)) :
    shortened found first (shortened (found || first != 0) second items) =
      shortened found (second + first) items := by
  cases found with
  | true =>
    cases items with
    | none => rfl
    | some xs =>
      have hmin : min (min (xs.length - second) xs.length - first) (xs.length - second) =
          xs.length - (second + first) := by omega
      show some ((xs.take (xs.length - second)).take _) = some (xs.take _)
      rw [List.take_take, List.length_take, hmin]
  | false =>
    cases first with
    | zero => simp [shortened_zero]
    | succ n => simp [shortened]

/-- Items are taken from the end, whichever were appended first. -/
theorem shortened_extended (items : Option (List Value)) (first second : List Value) :
    shortened items.isSome first.length (Keyed.extended items (first ++ second)) =
      if items.isSome || first.isEmpty then
        Keyed.extended items ((first ++ second).take second.length)
      else none := by
  cases items with
  | none =>
    cases first with
    | nil => simp [shortened_zero]
    | cons v rest => simp [shortened]
  | some xs =>
    have hsome (more : List Value) : Keyed.extended (some xs) more = some (xs ++ more) := by
      cases more <;> simp [Keyed.extended]
    have hlength : xs.length + (first.length + second.length) - first.length =
        xs.length + second.length := by omega
    have hwhole : xs.take (xs.length + second.length) = xs :=
      List.take_of_length_le (Nat.le_add_right _ _)
    simp [shortened, hsome, hlength, List.take_append, hwhole]

/-- What a change notes takes its item back, with the list if the change began it. -/
theorem trackedList_replay_entries (t u : SymbolTable) (list : TrackedList) (c : Change) :
    (u.replay (t.entries c)).trackedList list =
      shortened (t.trackedList list).isSome (c.appends list).length (u.trackedList list) := by
  by_cases hc : c.spot = .list list
  · cases c with
    | write w =>
      cases w with
      | appendTracked other item =>
        cases hc
        simp only [entries, Change.appends, if_true]
        cases ht : t.trackedList list with
        | some items =>
          have hdrop : (List.dropLast : List Value → List Value) =
              fun xs => xs.take (xs.length - 1) := funext fun _ => List.dropLast_eq_take
          refine (Keyed.lookup_modify list List.dropLast list u.tracked).trans ?_
          rw [if_pos rfl, hdrop]
          rfl
        | none => exact Keyed.lookup_erase_self _ _
      | _ => cases hc
    | member kind id key value => cases hc
  · have hne : ∀ e ∈ t.entries c, e.spot ≠ .list list := fun e he => spot_entries e he ▸ hc
    have happends : c.appends list = [] := by
      cases c with
      | write w =>
        cases w with
        | appendTracked other item => exact if_neg fun ho : other = list => hc (ho ▸ rfl)
        | _ => rfl
      | member kind id key value => rfl
    have hread := replay_of_ne (fun t => t.trackedList list)
      (fun _ _ h => trackedList_undo_of_ne h) hne u
    rw [happends]
    exact hread.trans (shortened_zero _ _).symm

theorem trackedList_replay_allEntries (t u : SymbolTable) (list : TrackedList) (cs : List Change) :
    (u.replay (t.allEntries cs)).trackedList list =
      shortened (t.trackedList list).isSome (cs.flatMap (Change.appends list)).length
        (u.trackedList list) := by
  induction cs generalizing t with
  | nil => exact (shortened_zero _ _).symm
  | cons c rest ih =>
    have hfound : ((t.change c).trackedList list).isSome =
        ((t.trackedList list).isSome || (c.appends list).length != 0) := by
      rw [trackedList_change, Keyed.extended]
      cases c.appends list <;> simp
    rw [allEntries, replay_append, trackedList_replay_entries, ih, hfound, shortened_shortened,
      List.flatMap_cons, List.length_append, Nat.add_comm]

/-! ## A commit inside a failure -/

/-- What is left when a transaction makes calls, another in it makes calls and is committed, and the
first then fails. -/
def failedAround (t : SymbolTable) (outer inner : List Call) : SymbolTable :=
  ((t.openJournal.calls outer).openJournal.calls inner).commit.rollback

/-- The places that calls write to for good. -/
def spots (cs : List Call) : List Spot := (Call.allChanges cs).map Change.spot

/-- The items that calls append to a list for good. -/
def appended (list : TrackedList) (cs : List Call) : List Value :=
  (Call.allChanges cs).flatMap (Change.appends list)

theorem contents_rollback {t : SymbolTable} {journal : List Undo} {outer : List (List Undo)}
    (h : t.journals = journal :: outer) : t.rollback.contents = t.contents.replay journal := by
  unfold rollback
  rw [h]
  exact contents_replay t journal

section

variable {t : SymbolTable} {outer inner : List Call}

theorem calls_nested (h : t.Reachable) (hf : t.FilledRecords) (ho : Call.allFilled outer = true)
    (hi : Call.allFilled inner = true) :
    (t.openJournal.calls outer).openJournal.calls inner =
      (t.openJournal.changes (Call.allChanges outer)).openJournal.changes
        (Call.allChanges inner) := by
  have hopen : t.openJournal.FilledRecords := hf
  have houter := hopen.changes (allFilled_changes ho)
  rw [calls_eq_changes h.openJournal hopen outer ho]
  exact calls_eq_changes (h.openJournal.changes _).openJournal houter inner hi

/-- The outer journal is replayed on what the inner changes have left. -/
theorem contents_failedAround (h : t.Reachable) (hf : t.FilledRecords)
    (ho : Call.allFilled outer = true) (hi : Call.allFilled inner = true) :
    (t.failedAround outer inner).contents =
      ((t.openJournal.calls outer).openJournal.calls inner).contents.replay
        (t.allEntries (Call.allChanges outer)) := by
  have hentries : t.openJournal.allEntries (Call.allChanges outer) =
      t.allEntries (Call.allChanges outer) :=
    (allEntries_contents t.openJournal _).symm.trans (allEntries_contents t _)
  unfold failedAround
  rw [calls_nested h hf ho hi]
  have hjournals : ((t.openJournal.changes (Call.allChanges outer)).openJournal.changes
      (Call.allChanges inner)).commit.journals =
        t.allEntries (Call.allChanges outer) :: t.journals := by
    simp only [commit, journals_changes, openJournal, withEntries, List.tail_cons, List.append_nil]
    rw [← hentries]
    rfl
  exact contents_rollback hjournals

theorem journals_failedAround (h : t.Reachable) (hf : t.FilledRecords)
    (ho : Call.allFilled outer = true) (hi : Call.allFilled inner = true) :
    (t.failedAround outer inner).journals = t.journals := by
  unfold failedAround
  rw [calls_nested h hf ho hi]
  simp only [rollback, commit, journals_changes, openJournal, withEntries, List.tail_cons]

theorem contents_nested (h : t.Reachable) (hf : t.FilledRecords)
    (ho : Call.allFilled outer = true) (hi : Call.allFilled inner = true) :
    ((t.openJournal.calls outer).openJournal.calls inner).contents =
      (t.contents.changes (Call.allChanges outer)).changes (Call.allChanges inner) := by
  rw [calls_nested h hf ho hi, contents_changes]
  exact congrArg (fun u : SymbolTable => u.changes (Call.allChanges inner))
    (contents_changes t.openJournal (Call.allChanges outer))

theorem failedAround_of_apart (h : t.Reachable) (hf : t.FilledRecords)
    (ho : Call.allFilled outer = true) (hi : Call.allFilled inner = true)
    (hapart : ∀ spot ∈ spots outer, spot ∉ spots inner) :
    t.failedAround outer inner = (t.openJournal.calls inner).commit := by
  have halone : t.openJournal.calls inner = t.openJournal.changes (Call.allChanges inner) :=
    calls_eq_changes h.openJournal (t := t.openJournal) hf inner hi
  refine eq_of_contents ?_ ?_
  · rw [contents_failedAround h hf ho hi, contents_nested h hf ho hi, halone,
      replay_apart h hf (allFilled_changes ho) hapart]
    exact (contents_changes t.openJournal (Call.allChanges inner)).symm
  · rw [journals_failedAround h hf ho hi, halone]
    simp only [commit, journals_changes, openJournal, withEntries, List.tail_cons]

theorem trackedList_failedAround (h : t.Reachable) (hf : t.FilledRecords)
    (ho : Call.allFilled outer = true) (hi : Call.allFilled inner = true) (list : TrackedList) :
    (t.failedAround outer inner).trackedList list =
      if (t.trackedList list).isSome || (appended list outer).isEmpty then
        Keyed.extended (t.trackedList list)
          ((appended list outer ++ appended list inner).take (appended list inner).length)
      else none := by
  show (t.failedAround outer inner).contents.trackedList list = _
  rw [contents_failedAround h hf ho hi, contents_nested h hf ho hi, trackedList_replay_allEntries,
    trackedList_changes, trackedList_changes, Keyed.extended_extended]
  exact shortened_extended (t.trackedList list) (appended list outer) (appended list inner)

/-- A transaction that is committed inside one that fails. If the two have written to places apart,
what is left is what the inner one leaves alone. A list that was there, or that the outer one has
left alone, has its old items and then as many as the inner one has appended, the outer items first
among them; any other list is gone. An option map or a single entry that the outer one has set is
as it was before, and as the inner one has left it otherwise. -/
theorem failedAround_eq (h : t.Reachable) (hf : t.FilledRecords)
    (ho : Call.allFilled outer = true) (hi : Call.allFilled inner = true) :
    ((∀ spot ∈ spots outer, spot ∉ spots inner) →
      t.failedAround outer inner = (t.openJournal.calls inner).commit) ∧
    (∀ list, (t.failedAround outer inner).trackedList list =
      if (t.trackedList list).isSome || (appended list outer).isEmpty then
        Keyed.extended (t.trackedList list)
          ((appended list outer ++ appended list inner).take (appended list inner).length)
      else none) ∧
    (∀ kind name, (t.failedAround outer inner).optionsOf kind name =
      if .options kind name ∈ spots outer then t.optionsOf kind name
      else ((t.openJournal.calls outer).openJournal.calls inner).optionsOf kind name) ∧
    ∀ which, (t.failedAround outer inner).singleton which =
      if .singleton which ∈ spots outer then t.singleton which
      else ((t.openJournal.calls outer).openJournal.calls inner).singleton which := by
  have hcontents := contents_failedAround h hf ho hi
  refine ⟨failedAround_of_apart h hf ho hi, trackedList_failedAround h hf ho hi,
    fun kind name => ?_, fun which => ?_⟩
  · show (t.failedAround outer inner).contents.optionsOf kind name = _
    rw [hcontents]
    exact (restores_optionsOf kind name).replay t _ _
  · show (t.failedAround outer inner).contents.singleton which = _
    rw [hcontents]
    exact (restores_singleton which).replay t _ _

end

/-- Appends a text to one of the lists. -/
def appendOf (text : String) : Call := .write (.appendTracked .subPictures (.string text))

theorem failedAround_eq_apart :
    recorded.failedAround [appendOf "q", .write (.overwrite "A" (.integer 2))]
        [.write (.declare "B" (.bool true)),
          .update .conditionals 1 [("valid", some (.bool true))]] =
      (recorded.openJournal.calls [.write (.declare "B" (.bool true)),
        .update .conditionals 1 [("valid", some (.bool true))]]).commit ∧
    (recorded.failedAround [appendOf "q"] [appendOf "r", appendOf "s"]).trackedList .subPictures =
      some [.string "p", .string "q", .string "r"] := by
  have hr : recorded.Reachable := Reachable.empty.changes _
  have hf : recorded.FilledRecords := FilledRecords.empty.changes (by decide)
  exact ⟨(failedAround_eq hr hf (by decide) (by decide)).1 (by decide),
    (failedAround_eq hr hf (by decide) (by decide)).2.1 .subPictures⟩

/-- The item of the committed transaction is lost, and that of the failed one is kept. -/
theorem failedAround_keeps_outer :
    (recorded.failedAround [appendOf "q"] [appendOf "r"]).trackedList .subPictures =
        some [.string "p", .string "q"] ∧
      (recorded.failedAround [appendOf "q"] [appendOf "r"]).trackedList .subPictures ≠
        some [.string "p", .string "r"] := by
  have hkept : (recorded.failedAround [appendOf "q"] [appendOf "r"]).trackedList .subPictures =
      some [.string "p", .string "q"] := rfl
  refine ⟨hkept, ?_⟩
  rw [hkept]
  simp

end SymbolTable

end DialogScript
