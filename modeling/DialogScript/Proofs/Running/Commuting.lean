import DialogScript.Proofs.Checking.Footprint
import DialogScript.Proofs.Running.Configured
import DialogScript.Proofs.Running.Tracked

/-!
Declarations that can change places. What a declaration or a dialog parameter does is told by the
bindings in its footprint, and it touches no name but its own; so of two that do not mention each
other, each finds and does the same before and after the other one. One that fails is no exception:
what it wrote is taken back. Only the order of items on the shared lists tells which was run first.
-/

namespace DialogScript

namespace SymbolTable

variable {t u v : SymbolTable} {name own : String}

/-! ## What tables have under a name -/

/-- Tables that have the same under a name: the binding, the first value and the option maps. -/
structure SameAt (name : String) (t u : SymbolTable) : Prop where
  binding : t.binding? name = u.binding? name
  baseline : t.baseline name = u.baseline name
  options : ∀ kind, t.optionsOf kind name = u.optionsOf kind name

namespace SameAt

theorem refl (name : String) (t : SymbolTable) : SameAt name t t := ⟨rfl, rfl, fun _ => rfl⟩

theorem symm (h : SameAt name t u) : SameAt name u t :=
  ⟨h.binding.symm, h.baseline.symm, fun kind => (h.options kind).symm⟩

theorem trans (h : SameAt name t u) (h' : SameAt name u v) : SameAt name t v :=
  ⟨h.binding.trans h'.binding, h.baseline.trans h'.baseline,
    fun kind => (h.options kind).trans (h'.options kind)⟩

theorem of_contents (h : t.contents = u.contents) : SameAt name t u where
  binding := congrArg (fun t => t.binding? name) h
  baseline := congrArg (fun t => t.baseline name) h
  options := fun kind => congrArg (fun t => t.optionsOf kind name) h

theorem lookup (h : SameAt name t u) : t.lookup name = u.lookup name := by
  unfold SymbolTable.lookup
  rw [h.binding]

theorem declarations (h : SameAt name t u) : t.declarations name = u.declarations name := by
  unfold SymbolTable.declarations
  rw [h.binding]

/-- A write makes the same of a name where there was the same under it. -/
theorem apply (h : SameAt name t u) (w : Write) : SameAt name (t.apply w) (u.apply w) where
  binding := binding?_apply_congr h.binding w
  baseline := by
    cases w with
    | declare other value =>
      rw [baseline_declare, baseline_declare, h.baseline]
      by_cases ho : name = other
      · subst ho
        rw [h.binding]
      · rw [if_neg fun hand => ho hand.1, if_neg fun hand => ho hand.1]
    | overwrite other value => rw [baseline_overwrite, baseline_overwrite, h.baseline]
    | _ =>
      unfold SymbolTable.baseline
      rw [(t.bindings_apply rfl).2, (u.bindings_apply rfl).2]
      exact h.baseline
  options := fun kind => by rw [optionsOf_apply, optionsOf_apply, h.options]

theorem applyAll (h : SameAt name t u) (ws : List Write) :
    SameAt name (t.applyAll ws) (u.applyAll ws) := by
  induction ws generalizing t u with
  | nil => exact h
  | cons w rest ih => exact ih (h.apply w)

end SameAt

/-- A write about another name leaves what there is under a name. -/
theorem sameAt_apply {w : Write} (hw : w.About own) (hne : name ≠ own) (t : SymbolTable) :
    SameAt name (t.apply w) t where
  binding := by
    cases w with
    | declare other value =>
      cases hw
      rw [binding?_declare, if_neg hne]
    | overwrite other value =>
      cases hw
      rw [binding?_overwrite, if_neg hne]
    | _ =>
      unfold binding?
      rw [(t.bindings_apply rfl).1]
  baseline := by
    cases w with
    | declare other value =>
      cases hw
      rw [baseline_declare, if_neg fun hand => hne hand.1]
    | overwrite other value => exact baseline_overwrite t other value name
    | _ =>
      unfold baseline
      rw [(t.bindings_apply rfl).2]
  options := fun kind => by
    rw [optionsOf_apply]
    cases w with
    | setOptions kind' other value =>
      cases hw
      exact if_neg fun heq => hne (congrArg Prod.snd heq).symm
    | _ => rfl

theorem sameAt_applyAll {ws : List Write} (hws : ∀ w ∈ ws, w.About own) (hne : name ≠ own)
    (t : SymbolTable) : SameAt name (t.applyAll ws) t := by
  induction ws generalizing t with
  | nil => exact .refl name t
  | cons w rest ih =>
    obtain ⟨hfirst, hrest⟩ := List.forall_mem_cons.1 hws
    exact (ih hrest (t.apply w)).trans (sameAt_apply hfirst hne t)

/-- Writes about another name can be made before other writes or after them. -/
theorem sameAt_swap {ws vs : List Write} (hws : ∀ w ∈ ws, w.About own) (hne : name ≠ own)
    (t : SymbolTable) : SameAt name ((t.applyAll ws).applyAll vs) ((t.applyAll vs).applyAll ws) :=
  ((sameAt_applyAll hws hne t).applyAll vs).trans (sameAt_applyAll hws hne (t.applyAll vs)).symm

end SymbolTable

/-- Items that are appended in another order. -/
theorem Keyed.extended_perm {ν : Type} (items : Option (List ν)) (more most : List ν) :
    Option.Rel List.Perm (extended items (more ++ most)) (extended items (most ++ more)) := by
  cases more with
  | nil =>
    rw [List.nil_append, List.append_nil]
    cases extended items most with
    | none => exact .none
    | some found => exact .some (.refl found)
  | cons first rest =>
    have hsome : (most ++ first :: rest).isEmpty = false := by cases most <;> rfl
    rw [extended, extended, hsome]
    exact .some (List.perm_append_comm.append_left _)

/-! ## One declaration -/

/-- A command that is set back ends the same and is marked the same in every session, and leaves the
table as it found it. -/
theorem Session.finish_setBack {s u : Session} {found : SymbolTable} (kind : CommandKind)
    (c : Command) (b : Setback) (hback : u.table.rollback = found) :
    (u.finish kind c (.error b)).ending = (s.finish kind c (.error b)).ending ∧
      (u.finish kind c (.error b)).tree = (s.finish kind c (.error b)).tree ∧
      (u.finish kind c (.error b)).session.table.contents = (found.applyAll []).contents := by
  obtain ⟨-, htable, -⟩ := u.finish_of_setback kind c b
  refine ⟨?_, ?_, congrArg SymbolTable.contents (htable.trans hback)⟩
  · rcases b with e | ⟨m | b⟩ <;> rfl
  · rcases b with e | ⟨m | b⟩ <;> rfl

/-- The run of an action that declares a name ends the same on all tables that bind the names in its
footprint alike, and makes the same writes there, about its own name. -/
theorem runAction_confined {a : Action} {own : String} (ha : a.parameter? = some own)
    (setting : Setting) (status : Status) (s : Session) :
    ∃ ws, (∀ w ∈ ws, SymbolTable.Write.About own w) ∧
      ∀ u : Session, u.table.Reachable → s.table.AlikeOn (own :: a.mentioned) u.table →
        (runAction setting status a u).ending = (runAction setting status a s).ending ∧
        (runAction setting status a u).tree = (runAction setting status a s).tree ∧
        (runAction setting status a u).session.table.contents = (u.table.applyAll ws).contents := by
  obtain ⟨kind, hk⟩ := Action.kind?_of_parameter? ha
  have nothing : ∀ w ∈ ([] : List SymbolTable.Write), w.About own :=
    fun _ hw => absurd hw List.not_mem_nil
  by_cases hx : setting.exhausted = some kind
  · refine ⟨[], nothing, fun u hu _ => ?_⟩
    obtain ⟨ws, _, -, hthere⟩ := u.runOut_eq setting kind (.action status a)
    obtain ⟨_, _, -, hhere⟩ := s.runOut_eq setting kind (.action status a)
    simp only [runAction, hk, hx, if_true]
    rw [hthere, hhere]
    exact Session.finish_setBack kind _ _ (SymbolTable.rollback_applyAll hu ws)
  obtain ⟨ws, habout, hws⟩ :=
    Check.action_confined ha ⟨kind, setting.host⟩ (s.entered kind status.span)
  simp only [runAction, hk, hx, if_false]
  cases hr : (Check.action a ⟨kind, setting.host⟩ (s.entered kind status.span)).1 with
  | ok done =>
    refine ⟨ws, habout, fun u _ halike => ?_⟩
    obtain ⟨hresult, htable⟩ := hws (u.entered kind status.span) halike
    rw [hresult, hr]
    refine ⟨rfl, rfl, ?_⟩
    show (SymbolTable.commit (Check.action a _ (u.entered kind status.span)).2.table).contents = _
    rw [htable]
    show (u.table.openJournal.applyAll ws).contents = _
    rw [SymbolTable.contents_applyAll, SymbolTable.contents_applyAll]
    rfl
  | error f =>
    -- What a check that fails has written is taken back.
    refine ⟨[], nothing, fun u hu halike => ?_⟩
    obtain ⟨hresult, htable⟩ := hws (u.entered kind status.span) halike
    rw [hresult, hr]
    refine Session.finish_setBack kind _ _ ?_
    rw [htable]
    exact SymbolTable.rollback_applyAll hu ws

/-! ## Two declarations -/

/-- Two commands can change places: each of them ends the same and is marked the same before and
after the other one, and the tables that the two orders leave have the same values, counts, first
values and option maps, and the same items on the shared lists, up to their order. -/
structure Commuting (setting : Setting) (s : Session) (c d : Command) : Prop where
  first : (runCommand setting c (runCommand setting d s).session).ending =
      (runCommand setting c s).ending ∧
    (runCommand setting c (runCommand setting d s).session).tree = (runCommand setting c s).tree
  second : (runCommand setting d (runCommand setting c s).session).ending =
      (runCommand setting d s).ending ∧
    (runCommand setting d (runCommand setting c s).session).tree = (runCommand setting d s).tree
  names : ∀ name,
    let t := (runCommand setting d (runCommand setting c s).session).session.table
    let u := (runCommand setting c (runCommand setting d s).session).session.table
    t.lookup name = u.lookup name ∧ t.declarations name = u.declarations name ∧
      t.baseline name = u.baseline name ∧ ∀ kind, t.optionsOf kind name = u.optionsOf kind name
  lists : ∀ list, Option.Rel List.Perm
    ((runCommand setting d (runCommand setting c s).session).session.table.trackedList list)
    ((runCommand setting c (runCommand setting d s).session).session.table.trackedList list)

/-- A table keeps the bindings of names that no write to it has been about. -/
theorem SymbolTable.alikeOn_of_about {t u : SymbolTable} {own : String} {names : List String}
    {ws : List Write} (hws : ∀ w ∈ ws, w.About own) (hown : own ∉ names)
    (hu : u.contents = (t.applyAll ws).contents) : t.AlikeOn names u := fun name hname =>
  have hne : name ≠ own := fun heq => hown (heq ▸ hname)
  ((SameAt.of_contents hu).trans (sameAt_applyAll hws hne t)).symm.binding

theorem SymbolTable.contents_applyAll_of {t u : SymbolTable} {ws vs : List Write}
    (ht : t.contents = (u.applyAll ws).contents) :
    (t.applyAll vs).contents = ((u.applyAll ws).applyAll vs).contents := by
  rw [contents_applyAll, ht, contents_applyAll _ vs]

/-- Of two commands that declare different names, and do not mention each other's name in their
expressions, either can be run first. -/
theorem runCommand_commute (setting : Setting) {s : Session} (hs : s.table.Reachable)
    {c d : Action} {x y : String} (hc : c.parameter? = some x) (hd : d.parameter? = some y)
    (hne : x ≠ y) (hcy : y ∉ c.mentioned) (hdx : x ∉ d.mentioned) (status other : Status) :
    Commuting setting s (.action status c) (.action other d) := by
  obtain ⟨ws, hws, hfirst⟩ := runAction_confined hc setting status s
  obtain ⟨vs, hvs, hsecond⟩ := runAction_confined hd setting other s
  have hrun (status : Status) (a : Action) (s : Session) :
      runCommand setting (.action status a) s = runAction setting status a s := by rw [runCommand]
  have hreach (status : Status) (a : Action) :
      (runAction setting status a s).session.table.Reachable := by
    rw [← hrun]
    exact (closed_command setting (.action status a) hs).reachable
  obtain ⟨-, -, hws₁⟩ := hfirst s hs (.refl _ _)
  obtain ⟨-, -, hvs₁⟩ := hsecond s hs (.refl _ _)
  -- Neither writes about a name in the footprint of the other one.
  obtain ⟨hending, htree, hws₂⟩ := hfirst (runAction setting other d s).session (hreach other d)
    (SymbolTable.alikeOn_of_about hvs (List.not_mem_cons_of_ne_of_not_mem hne.symm hcy) hvs₁)
  obtain ⟨hending', htree', hvs₂⟩ := hsecond (runAction setting status c s).session
    (hreach status c)
    (SymbolTable.alikeOn_of_about hws (List.not_mem_cons_of_ne_of_not_mem hne hdx) hws₁)
  have hleft := hvs₂.trans (SymbolTable.contents_applyAll_of hws₁)
  have hright := hws₂.trans (SymbolTable.contents_applyAll_of hvs₁)
  constructor
  · rw [hrun, hrun, hrun]
    exact ⟨hending, htree⟩
  · rw [hrun, hrun, hrun]
    exact ⟨hending', htree'⟩
  · intro name
    have hswap : SymbolTable.SameAt name ((s.table.applyAll ws).applyAll vs)
        ((s.table.applyAll vs).applyAll ws) := by
      by_cases hx : name = x
      · exact (SymbolTable.sameAt_swap hvs (fun hy => hne (hx.symm.trans hy)) s.table).symm
      · exact SymbolTable.sameAt_swap hws hx s.table
    rw [hrun, hrun, hrun, hrun]
    have hsame := ((SymbolTable.SameAt.of_contents hleft).trans hswap).trans
      (SymbolTable.SameAt.of_contents hright).symm
    exact ⟨hsame.lookup, hsame.declarations, hsame.baseline, hsame.options⟩
  · intro list
    rw [hrun, hrun, hrun, hrun]
    have hlist {t u : SymbolTable} (h : t.contents = u.contents) :
        t.trackedList list = u.trackedList list := congrArg (fun t => t.trackedList list) h
    rw [hlist hleft, hlist hright]
    simp only [trackedList_applyAll, Keyed.extended_extended]
    exact Keyed.extended_perm _ _ _

/-- A required checkbox, placed by the value of a name. -/
def requiredCheckbox (name place : String) : Action :=
  .checkbox { name, subtype := .int, required := true, displayOrder := .named none place }

/-- Two required checkboxes, of which a third name tells the place: the list of required checkboxes
alone tells which was run first. -/
theorem runCommand_commute_required :
    let c : Command := .action {} (requiredCheckbox "A" "Q")
    let d : Command := .action {} (requiredCheckbox "B" "Q")
    Commuting {} boundOnce c d ∧ (runCommand {} c boundOnce).ending = .ok true ∧
      (runCommand {} d (runCommand {} c boundOnce).session).session.table.trackedList
        .requiredCheckboxes = some [.string "A", .string "B"] ∧
      (runCommand {} c (runCommand {} d boundOnce).session).session.table.trackedList
        .requiredCheckboxes = some [.string "B", .string "A"] := by
  have hs : boundOnce.table.Reachable := .apply .empty (.declare "Q" (.integer 1))
  exact ⟨runCommand_commute {} hs rfl rfl (by decide) (by decide) (by decide) {} {}, rfl, rfl, rfl⟩

end DialogScript
