import DialogScript.Proofs.Running.Trail
import DialogScript.Proofs.Table.Nested

/-!
The shared lists of a run. A list has one item for each visited command that passes and contributes
to it, in the order of the visits, and is not there without one. A selection binds its target, and
bound names stay bound, so no two selections that pass take the same target.
-/

namespace DialogScript

/-! ## Items -/

namespace Visit

/-- What a visited command contributes to a shared list, if it passes. -/
def tracked? (setting : Setting) (v : Visit) : Option Tracks :=
  (v.passed? setting).bind Action.tracks?

/-- Whether a visited command passes and contributes to a shared list. -/
def contributes (setting : Setting) (list : TrackedList) (v : Visit) : Bool :=
  (v.tracked? setting).any fun found => found.1 = list

/-- The item that a visited command contributes to a shared list. -/
def item? (setting : Setting) (list : TrackedList) (v : Visit) : Option Value :=
  match v.command.kind?, v.tracked? setting with
  | some kind, some (other, item) =>
    if other = list then (item ⟨kind, setting.host⟩ v.session).1.toOption else none
  | _, _ => none

/-- The target of a visited selection that passes. -/
def claimed? (setting : Setting) (v : Visit) : Option String :=
  match v.passed? setting with
  | some (.select q) => q.target.declares?.map Declares.name
  | _ => none

end Visit

variable {setting : Setting} {s : Session} {t u : SymbolTable} {v : Visit}

/-- The items that some writes append to a list. -/
theorem trackedList_applyAll (t : SymbolTable) (ws : List SymbolTable.Write) (list : TrackedList) :
    (t.applyAll ws).trackedList list = Keyed.extended (t.trackedList list)
      ((ws.filterMap Check.appended?).filterMap fun e =>
        if e.1 = list then some e.2 else none) := by
  induction ws generalizing t with
  | nil => rfl
  | cons w rest ih =>
    have hfirst : (t.apply w).trackedList list = _ := t.trackedList_change list (.write w)
    show ((t.apply w).applyAll rest).trackedList list = _
    rw [ih, hfirst, Keyed.extended_extended]
    congr 1
    cases w with
    | appendTracked other item =>
      by_cases ho : other = list <;>
        simp [SymbolTable.Change.appends, Check.appended?, ho]
    | _ => rfl

/-- A visited command appends the item that it contributes, and it has one if it contributes. -/
theorem Visit.trackedList_after (setting : Setting) (hv : v.session.table.Reachable)
    (list : TrackedList) :
    (v.after setting).trackedList list =
        Keyed.extended (v.session.table.trackedList list) (v.item? setting list).toList ∧
      (v.item? setting list).isSome = v.contributes setting list := by
  rcases Visit.after_effect setting hv with
    ⟨hnone, hsame⟩ | ⟨a, kind, binding, others, ha, hk, h, hc⟩
  · have htracked : v.tracked? setting = none := by rw [tracked?, hnone]; rfl
    have hitem : v.item? setting list = none := by
      rw [item?, htracked]
      cases v.command.kind? <;> rfl
    rw [hsame, hitem, contributes, htracked]
    exact ⟨rfl, rfl⟩
  · have htracked : v.tracked? setting = a.tracks? := by rw [tracked?, ha]; rfl
    have happended : (v.after setting).trackedList list = Keyed.extended
        (v.session.table.trackedList list)
        ((others.filterMap Check.appended?).filterMap fun e =>
          if e.1 = list then some e.2 else none) := by
      have hsame : (v.after setting).trackedList list =
          (v.session.table.applyAll (binding ++ others)).trackedList list :=
        congrArg (fun t => t.trackedList list) hc
      rw [hsame, trackedList_applyAll, List.filterMap_append,
        h.binds.filterMap (fun _ _ => rfl) (fun _ _ => rfl), List.nil_append]
    rw [happended, contributes, item?, hk, htracked]
    have happends := h.appends
    generalize others.filterMap Check.appended? = items at happends ⊢
    generalize a.tracks? = found at happends ⊢
    cases happends with
    | nothing => exact ⟨rfl, rfl⟩
    | @item other m value hvalue =>
      by_cases ho : other = list
      · simp [ho, hvalue, Except.toOption]
      · simp [ho]

/-- Along a trail, a list gets the items of the visited commands. -/
theorem Trail.trackedList {vs : List Visit} (h : Trail setting t vs u) (list : TrackedList) :
    u.trackedList list =
      Keyed.extended (t.trackedList list) (vs.filterMap (Visit.item? setting list)) := by
  induction h with
  | done h => exact trackedList_of_unrecorded h list
  | @step t u v vs h hv _ ih =>
    rw [ih, (Visit.trackedList_after setting hv list).1, trackedList_of_unrecorded h,
      Keyed.extended_extended]
    congr 1
    rw [List.filterMap_cons]
    cases v.item? setting list <;> rfl

/-! ## Targets of selections -/

/-- A selection that passes takes a target that is not bound, and binds it. -/
theorem Visit.claimed_after (setting : Setting) (hv : v.session.table.Reachable) {name : String}
    (h : v.claimed? setting = some name) :
    v.session.table.lookup name = none ∧ (v.after setting).lookup name ≠ none := by
  rcases Visit.after_name setting hv name with ⟨hnone, -⟩ | ⟨a, kind, ha, -, heffect⟩
  · rw [claimed?, hnone] at h
    cases h
  · rw [claimed?, ha] at h
    cases a with
    | select q =>
      obtain ⟨d, hd, hname⟩ := Option.map_eq_some_iff.1 h
      -- A selection refuses a target that is bound, so its effect can only be a first value.
      have hrefuses : d.rebinding = .refuses := by
        cases hq : q.target <;> rw [hq] at hd <;> cases hd <;> rfl
      have hsame {d' : Declares} (hd' : (Action.select q).declares? = some d') : d' = d :=
        Option.some.inj (hd'.symm.trans hd)
      cases heffect with
      | kept hfree => exact absurd hname (hfree d hd)
      | first hd' _ _ hfree _ _ hb _ =>
        rw [SymbolTable.lookup, SymbolTable.lookup, hfree, hb]
        exact ⟨rfl, Option.some_ne_none _⟩
      | again hd' _ hr =>
        rw [hsame hd', hrefuses] at hr
        cases hr
      | replaced hd' _ hr =>
        rw [hsame hd', hrefuses] at hr
        cases hr
    | _ => cases h

/-- A visited command leaves bound names bound. -/
theorem Visit.free_before (setting : Setting) (hv : v.session.table.Reachable) {name : String}
    (h : (v.after setting).lookup name = none) : v.session.table.lookup name = none := by
  rcases Visit.after_name setting hv name with ⟨-, hsame⟩ | ⟨a, kind, -, -, heffect⟩
  · rwa [hsame] at h
  · cases heffect with
    | kept _ hb _ => rwa [SymbolTable.lookup, hb] at h
    | first _ _ _ hfree => rw [SymbolTable.lookup, hfree]; rfl
    | again _ _ _ _ _ hb _ =>
      rw [SymbolTable.lookup, hb] at h
      cases h
    | replaced _ _ _ _ _ _ hb _ =>
      rw [SymbolTable.lookup, hb] at h
      cases h

/-- Along a trail, selections that pass take targets that are not bound before it, each once. -/
theorem Trail.claimed {vs : List Visit} (h : Trail setting t vs u) :
    (∀ v ∈ vs, ∀ name, v.claimed? setting = some name → t.lookup name = none) ∧
      (vs.filterMap (Visit.claimed? setting)).Nodup := by
  induction h with
  | done => exact ⟨fun _ hv => absurd hv List.not_mem_nil, List.nodup_nil⟩
  | @step t u v vs h hv _ ih =>
    obtain ⟨hfree, hnodup⟩ := ih
    have hlookup := lookup_of_unrecorded h
    refine ⟨List.forall_mem_cons.2 ⟨fun name hname => ?_, fun w hw name hname => ?_⟩, ?_⟩
    · rw [← hlookup]
      exact (Visit.claimed_after setting hv hname).1
    · rw [← hlookup]
      exact Visit.free_before setting hv (hfree w hw name hname)
    · -- The target that the first one takes stays bound, so none of the others takes it.
      cases hclaimed : v.claimed? setting with
      | none => rwa [List.filterMap_cons_none hclaimed]
      | some name =>
        rw [List.filterMap_cons_some hclaimed, List.nodup_cons]
        refine ⟨fun hmem => ?_, hnodup⟩
        obtain ⟨w, hw, hname⟩ := List.mem_filterMap.1 hmem
        exact (Visit.claimed_after setting hv hclaimed).2 (hfree w hw name hname)

theorem requiredItem?_eq_some {required : Bool} {list other : TrackedList} {name : String}
    {m : Check Value} (h : requiredItem? required list name = some (other, m)) :
    other = list ∧ m = pure (.string name) := by
  unfold requiredItem? at h
  split at h
  · cases h
    exact ⟨rfl, rfl⟩
  · cases h

/-- Only a selection is listed as a required one, with its target. -/
theorem Action.select_of_tracks {a : Action} {m : Check Value}
    (h : a.tracks? = some (.requiredSelects, m)) :
    ∃ q name, a = .select q ∧ q.target.declares?.map Declares.name = some name ∧
      m = pure (.string name) := by
  cases a with
  | select q =>
    change q.target.tracks? = _ at h
    cases hq : q.target with
    | unspecified =>
      rw [hq] at h
      cases h
    | one name required =>
      rw [hq] at h
      exact ⟨q, name, rfl, by rw [hq]; rfl, (requiredItem?_eq_some h).2⟩
    | many name maxSel required =>
      rw [hq] at h
      exact ⟨q, name, rfl, by rw [hq]; rfl, (requiredItem?_eq_some h).2⟩
  | checkbox q => cases (requiredItem?_eq_some h).1
  | radio q => cases (requiredItem?_eq_some h).1
  | _ => cases h

/-- An item is contributed by an action that passes. -/
theorem Visit.tracks_of_item {list : TrackedList} {item : Value}
    (h : v.item? setting list = some item) :
    ∃ kind a m, v.passed? setting = some a ∧ a.tracks? = some (list, m) ∧
      (m ⟨kind, setting.host⟩ v.session).1.toOption = some item := by
  unfold item? at h
  split at h
  · rename_i kind other m hk htracked
    split at h
    · rename_i ho
      subst ho
      obtain ⟨a, ha, hm⟩ := Option.bind_eq_some_iff.1 htracked
      exact ⟨kind, a, m, ha, hm, h⟩
    · cases h
  · cases h

/-- A required selection contributes its target. -/
theorem Visit.claimed_of_item {item : Value}
    (h : v.item? setting .requiredSelects = some item) :
    ∃ name, v.claimed? setting = some name ∧ item = .string name := by
  obtain ⟨kind, a, m, ha, hm, hitem⟩ := Visit.tracks_of_item h
  obtain ⟨q, name, rfl, hname, rfl⟩ := Action.select_of_tracks hm
  cases hitem
  exact ⟨name, by rw [claimed?, ha]; exact hname, rfl⟩

/-- A list with some items: one without an item is not there. -/
def listed (items : List Value) : Option (List Value) :=
  if items.isEmpty then none else some items

theorem listed_eq_none {items : List Value} : listed items = none ↔ items = [] := by
  cases items <;> simp [listed]

theorem listed_eq_some {items found : List Value} (h : listed items = some found) :
    items = found := by
  cases items with
  | nil => cases h
  | cons => exact Option.some.inj h

/-- The shared lists hold one item for each command that passes and contributes to them, in order
and nested ones included, and a list without such a command is not there. No two selections that
pass take the same target, so the required ones are listed once. -/
theorem runSeries_tracked (cs : List Command) (hs : s.table.Reachable) (he : s.table.tracked = []) :
    (∀ list, (runSeries setting cs s).table.trackedList list =
      listed ((seriesVisits setting cs s).filterMap (Visit.item? setting list))) ∧
    (∀ list, ∀ v ∈ seriesVisits setting cs s,
      (v.item? setting list).isSome = v.contributes setting list) ∧
    (∀ list, (runSeries setting cs s).table.trackedList list = none ↔
      ∀ v ∈ seriesVisits setting cs s, v.contributes setting list = false) ∧
    ((seriesVisits setting cs s).filterMap (Visit.claimed? setting)).Nodup ∧
    ∀ items, (runSeries setting cs s).table.trackedList .requiredSelects = some items →
      items.Nodup := by
  have htrail := trail_series setting cs hs
  have hlist (list : TrackedList) : (runSeries setting cs s).table.trackedList list =
      listed ((seriesVisits setting cs s).filterMap (Visit.item? setting list)) := by
    have hnone : s.table.trackedList list = none := by rw [SymbolTable.trackedList, he]; rfl
    rw [htrail.trackedList list, hnone]
    rfl
  have hitem (list : TrackedList) (v : Visit) (hv : v ∈ seriesVisits setting cs s) :
      (v.item? setting list).isSome = v.contributes setting list :=
    (Visit.trackedList_after setting (htrail.reachable v hv) list).2
  refine ⟨hlist, hitem, fun list => ?_, htrail.claimed.2, fun items hitems => ?_⟩
  · rw [hlist, listed_eq_none, List.filterMap_eq_nil_iff]
    refine forall₂_congr fun v hv => ?_
    rw [← hitem list v hv, Option.isSome_eq_false_iff, Option.isNone_iff_eq_none]
  · rw [hlist] at hitems
    obtain rfl := listed_eq_some hitems
    -- The items are the targets of the selections, and these are taken once.
    have hapart := List.pairwise_filterMap.1 htrail.claimed.2
    refine List.pairwise_filterMap.2 (hapart.imp fun {v w} hclaims item hv item' hw heq => ?_)
    obtain ⟨name, hname, rfl⟩ := Visit.claimed_of_item hv
    obtain ⟨name', hname', rfl⟩ := Visit.claimed_of_item hw
    cases heq
    exact hclaims name hname name hname' rfl

/-- A selection of axes. -/
def axisSelection (target : SelectTarget) : Action :=
  .select { target, types := [.literal none (.string "AXIS")] }

/-- A conditional that fails, in which a target is taken twice, the second time in vain, and a
required checkbox and an optional one are shown. -/
def listing : Command :=
  .conditional {} [.mk none .absent
    [.action {} (axisSelection (.one "R" true)),
      .action {} (axisSelection (.one "R" true)),
      .action {} (.checkbox { name := "C", subtype := .int, required := true }),
      .action {} (.checkbox { name := "D", subtype := .int })]] [.action {} (.invalidate "C")] 7

theorem runSeries_tracked_listing :
    (runSeries {} [listing] {}).table.trackedList .requiredSelects = some [.string "R"] ∧
      (runSeries {} [listing] {}).table.trackedList .requiredCheckboxes = some [.string "C"] ∧
      (runSeries {} [listing] {}).table.trackedList .requiredRadios = none := by
  have hlist (list : TrackedList) : (runSeries {} [listing] {}).table.trackedList list = _ :=
    (runSeries_tracked [listing] .empty rfl).1 list
  exact ⟨(hlist .requiredSelects).trans rfl, (hlist .requiredCheckboxes).trans rfl,
    (hlist .requiredRadios).trans rfl⟩

end DialogScript
