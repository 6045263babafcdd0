import DialogScript.Proofs.Checking.Passes

/-!
What an action does to the table when it passes: the name that it declares, with the type and the
value that it gives, the option map that it stores for the name, the item that it appends to a
shared list, and the entry that it sets once. Ten kinds of commands declare a name, each in one of
three ways; everything else that an action writes leaves the bindings alone.
-/

namespace DialogScript

/-- What an action does with a name that is bound when it declares it: it counts the declaration, it
refuses to pass, or it puts its own value in place. -/
inductive Rebinding where
  | counts | refuses | replaces
  deriving DecidableEq

/-- What an action declares: a name, the type of its value, and what gives the value if the name is
not bound. -/
structure Declares where
  name : String
  type : ValueType
  value : Check Value
  rebinding : Rebinding

/-- What a parameter declares. -/
def Declares.parameter (name : String) (subtype : ParamSubtype) (value : Check Value) : Declares :=
  ⟨name, subtype.valueType, value, .counts⟩

/-- What a field declares that gives no value of its own. -/
def Declares.zero (name : String) (subtype : ParamSubtype) : Declares :=
  .parameter name subtype (pure (Value.zeroOf subtype.valueType))

/-- What a selection declares. -/
def SelectTarget.declares? : SelectTarget → Option Declares
  | unspecified => none
  | one name _ => some ⟨name, .reference, pure (.reference none), .refuses⟩
  | many name _ _ => some ⟨name, .array, pure (.array []), .refuses⟩

/-- An item for a shared list, and what gives it. -/
abbrev Tracks : Type := TrackedList × Check Value

/-- The item of a command that is required, the name that it binds. -/
def requiredItem? (required : Bool) (list : TrackedList) (name : String) : Option Tracks :=
  if required then some (list, pure (.string name)) else none

/-- The item of a selection. -/
def SelectTarget.tracks? : SelectTarget → Option Tracks
  | unspecified => none
  | one name required => requiredItem? required .requiredSelects name
  | many name _ required => requiredItem? required .requiredSelects name

namespace Action

/-- What an action declares when it passes. -/
def declares? : Action → Option Declares
  | declare d => (d.kind.valueType? d.subtype).map fun type =>
    ⟨d.name, type, Check.firstValue d type, .counts⟩
  | showParam q => some (.zero q.name q.subtype)
  | checkbox q => some (.zero q.name q.subtype)
  | userInput q => some (.parameter q.name q.subtype (Check.defaultValue q.subtype q.default))
  | radio q => some (.zero q.name q.subtype)
  | select q => q.target.declares?
  | table q => some ⟨q.identifier, .map, Check.tableValue q, .replaces⟩
  | _ => none

/-- The item that an action appends to a shared list when it passes. -/
def tracks? : Action → Option Tracks
  | checkbox q => requiredItem? q.required .requiredCheckboxes q.name
  | radio q => requiredItem? q.required .requiredRadios q.name
  | select q => q.target.tracks?
  | invalidate name => some (.invalidatedParams, pure (.string name))
  | subPicture picture posX posY => some (.subPictures, Check.pictureEntry picture posX posY)
  | _ => none

/-- The entry that an action sets when it passes, one that exists at most once. -/
def sets? : Action → Option Singleton
  | configure _ => some .configElem
  | globalPicture _ => some .globalPicture
  | _ => none

end Action

namespace Check

variable {P : SymbolTable.Write → Prop} {p : Place} {s : Session} {u : SymbolTable}

/-- The writes by which an action binds what it declares. A name that is not bound gets the value
that the action gives; a bound one keeps its value, which is of the declared type, unless the action
replaces it. -/
inductive Binds (p : Place) (s : Session) : Option Declares → List SymbolTable.Write → Prop where
  | nothing : Binds p s none []
  | first {d : Declares} {v : Value} (hfree : s.table.lookup d.name = none)
      (hv : (d.value p s).1 = .ok v) (ht : v.type = d.type) :
      Binds p s (some d) [.declare d.name v]
  | again {d : Declares} {v : Value} (hr : d.rebinding = .counts)
      (hbound : s.table.lookup d.name = some v) (ht : v.type = d.type) :
      Binds p s (some d) [.declare d.name v]
  | replaced {d : Declares} {v : Value} (hr : d.rebinding = .replaces)
      (hbound : s.table.lookup d.name ≠ none) (hv : (d.value p s).1 = .ok v)
      (ht : v.type = d.type) : Binds p s (some d) [.overwrite d.name v]

/-- The item that a write appends to a shared list. -/
def appended? : SymbolTable.Write → Option (TrackedList × Value)
  | .appendTracked list item => some (list, item)
  | _ => none

/-- The items that an action appends to shared lists. -/
inductive Appends (p : Place) (s : Session) :
    Option Tracks → List (TrackedList × Value) → Prop where
  | nothing : Appends p s none []
  | item {list : TrackedList} {m : Check Value} {v : Value} (hv : (m p s).1 = .ok v) :
      Appends p s (some (list, m)) [(list, v)]

/-- The option map that a write stores, and for what. -/
def stored? : SymbolTable.Write → Option ((CommandKind × String) × Value)
  | .setOptions kind name m => some ((kind, name), m)
  | _ => none

/-- The option maps that an action stores: none, or a well-formed one for the name that it declares,
whose type the kind of the action accepts. -/
inductive Stores (p : Place) (a : Action) : List ((CommandKind × String) × Value) → Prop where
  | nothing : Stores p a []
  | map {d : Declares} {kind : CommandKind} {m : Value} (hd : a.declares? = some d)
      (hk : a.kind? = some kind) (ht : kind.accepts d.type = true)
      (hm : WellFormed p.host kind d.type m) : Stores p a [((p.kind, d.name), m)]

/-- The entry that a write sets. -/
def set? : SymbolTable.Write → Option (Singleton × Value)
  | .setSingleton which v => some (which, v)
  | _ => none

/-- The entries that an action sets. It has found none where it sets one. -/
inductive Sets (s : Session) : Option Singleton → List (Singleton × Value) → Prop where
  | nothing : Sets s none []
  | entry {which : Singleton} (hfree : s.table.singleton which = none) (v : Value) :
      Sets s (some which) [(which, v)]

/-- The writes of an action that passes, apart from those that bind what it declares. -/
structure Others (p : Place) (s : Session) (a : Action) (others : List SymbolTable.Write) : Prop
    where
  apart : ∀ w ∈ others, w.binds = false
  appends : Appends p s a.tracks? (others.filterMap appended?)
  stores : Stores p a (others.filterMap stored?)
  sets : Sets s a.sets? (others.filterMap set?)

/-- The writes of an action that passes: those that bind what it declares, and then others. A
picture is put on a main one that has been set. -/
structure Effect (p : Place) (s : Session) (a : Action) (binding others : List SymbolTable.Write) :
    Prop extends Others p s a others where
  identifier : ∀ d, a.declares? = some d → isIdentifier d.name = true
  binds : Binds p s a.declares? binding
  main : ∀ picture posX posY, a = .subPicture picture posX posY →
    s.table.singleton .globalPicture ≠ none

/-! ## Parts of an effect -/

/-- The writes that bind what an action declares do nothing else. -/
theorem Binds.filterMap {γ : Type} {found : Option Declares} {binding : List SymbolTable.Write}
    {f : SymbolTable.Write → Option γ} (h : Binds p s found binding)
    (hd : ∀ name v, f (.declare name v) = none) (ho : ∀ name v, f (.overwrite name v) = none) :
    binding.filterMap f = [] := by
  cases h with
  | nothing => rfl
  | first | again => exact List.filterMap_cons_none (hd _ _)
  | replaced => exact List.filterMap_cons_none (ho _ _)

theorem bindParameter_binds {name : String} {subtype : ParamSubtype} {value : Check Value}
    {initial : Value} {t : SymbolTable}
    (hv : s.table.lookup name = none →
      (value p s).1 = .ok initial ∧ initial.type = subtype.valueType)
    (h : Passes (bindParameter name subtype.valueType initial) p s () t) :
    ∃ w, Binds p s (some (.parameter name subtype value)) [w] ∧ t = s.table.apply w := by
  rcases bindParameter_passes h with ⟨hnone, rfl⟩ | ⟨v, hsome, htype, rfl⟩
  · exact ⟨_, .first hnone (hv hnone).1 (hv hnone).2, rfl⟩
  · exact ⟨_, .again rfl hsome htype, rfl⟩

/-- An action that leaves no other writes. -/
theorem Others.none {a : Action} (htracks : a.tracks? = Option.none)
    (hsets : a.sets? = Option.none) : Others p s a [] where
  apart _ h := absurd h List.not_mem_nil
  appends := htracks ▸ .nothing
  stores := .nothing
  sets := hsets ▸ .nothing

/-- A mark that stands by itself. -/
theorem Others.mark {a : Action} {required : Bool} {list : TrackedList} {name : String}
    (htracks : a.tracks? = requiredItem? required list name) (hsets : a.sets? = Option.none) :
    Others p s a (requiredMark required list name) := by
  cases required with
  | true => exact ⟨List.forall_mem_singleton.2 rfl, htracks ▸ .item rfl, .nothing, hsets ▸ .nothing⟩
  | false => exact .none htracks hsets

theorem stored_requiredMark (required : Bool) (list : TrackedList) (name : String) :
    (requiredMark required list name).filterMap stored? = [] := by
  cases required <;> rfl

/-- The name that an action declares is configured. -/
theorem Configures.others {a : Action} {d : Declares} {kind : CommandKind}
    {mark ws : List SymbolTable.Write} (hd : a.declares? = some d) (hk : a.kind? = some kind)
    (ht : kind.accepts d.type = true) (hmark : Others p s a mark)
    (hnone : mark.filterMap stored? = []) (h : Configures p kind d.type d.name mark ws) :
    Others p s a ws := by
  cases h with
  | plain hplain => exact hplain ▸ hmark
  | stored hm =>
    refine ⟨List.forall_mem_cons.2 ⟨rfl, hmark.apart⟩, hmark.appends, ?_, hmark.sets⟩
    -- The options are all that is stored.
    show Stores p a (((p.kind, d.name), _) :: mark.filterMap stored?)
    rw [hnone]
    exact .map hd hk ht hm

/-- An action that declares a name. -/
theorem Effect.declaring {a : Action} {d : Declares} {binding others : List SymbolTable.Write}
    (ha : a.declares? = some d) (hname : isIdentifier d.name = true)
    (hbinds : Binds p s (some d) binding) (hothers : Others p s a others) :
    Effect p s a binding others := by
  refine ⟨hothers, fun d' hd => ?_, ha ▸ hbinds, ?_⟩
  · rw [ha] at hd
    cases hd
    exact hname
  · rintro _ _ _ rfl
    cases ha

/-- An action that declares nothing. -/
theorem Effect.other {a : Action} {others : List SymbolTable.Write} (ha : a.declares? = none)
    (hothers : Others p s a others)
    (hmain : ∀ picture posX posY, a = .subPicture picture posX posY →
      s.table.singleton .globalPicture ≠ none) : Effect p s a [] others := by
  refine ⟨hothers, fun d hd => ?_, ha ▸ .nothing, hmain⟩
  rw [ha] at hd
  cases hd

/-- A parameter is bound, and then configured. -/
theorem parameter_effect {a : Action} {name : String} {subtype : ParamSubtype} {value : Check Value}
    {kind : CommandKind} {initial : Value} {t : SymbolTable} {mark ws : List SymbolTable.Write}
    (ha : a.declares? = some (.parameter name subtype value)) (hk : a.kind? = some kind)
    (ht : kind.accepts subtype.valueType = true)
    (hmark : Others p s a mark) (hnone : mark.filterMap stored? = [])
    (hname : isIdentifier name = true)
    (hv : s.table.lookup name = none →
      (value p s).1 = .ok initial ∧ initial.type = subtype.valueType)
    (hbind : Passes (bindParameter name subtype.valueType initial) p s () t)
    (hws : Configures p kind subtype.valueType name mark ws) (hu : u = t.applyAll ws) :
    ∃ binding others, Effect p s a binding others ∧ u = s.table.applyAll (binding ++ others) := by
  obtain ⟨w, hbinds, rfl⟩ := bindParameter_binds hv hbind
  exact ⟨[w], ws, .declaring ha hname hbinds (hws.others ha hk ht hmark hnone), hu⟩

/-- The target of a selection is bound for the first time, and then configured. -/
theorem selection_effect {q : Selection} {d : Declares} {v : Value} {options : Options}
    {required : Bool} {kind : CommandKind} (hd : q.target.declares? = some d)
    (hk : q.target.kind? = some kind) (ht : kind.accepts d.type = true)
    (htracks : q.target.tracks? = requiredItem? required .requiredSelects d.name)
    (hname : isIdentifier d.name = true) (hfree : s.table.lookup d.name = none)
    (hv : (d.value p s).1 = .ok v) (htype : v.type = d.type)
    (hm : WellFormed p.host kind d.type (Value.mapOf options))
    (hu : u = s.table.applyAll (.declare d.name v ::
      .setOptions p.kind d.name (Value.mapOf options) ::
        requiredMark required .requiredSelects d.name)) :
    ∃ binding others, Effect p s (.select q) binding others ∧
      u = s.table.applyAll (binding ++ others) :=
  ⟨[.declare d.name v], _, .declaring hd hname (.first hfree hv htype)
    (Configures.others hd hk ht (.mark htracks rfl) (stored_requiredMark _ _ _) (.stored hm)), hu⟩

/-! ## Actions -/

theorem isScalar_valueType (subtype : ParamSubtype) : subtype.valueType.isScalar = true := by
  cases subtype <;> rfl

/-- The subtypes of a choice have the types that a choice accepts. -/
theorem choice_type {subtype : ParamSubtype} (h : subtype ∈ choiceSubtypes) :
    (subtype.valueType = .integer || subtype.valueType = .bool) = true := by
  revert h
  cases subtype <;> decide

/-- An action that passes leaves its effect. -/
theorem action_effect {a : Action} (h : Passes (action a) p s () u) :
    ∃ binding others, Effect p s a binding others ∧ u = s.table.applyAll (binding ++ others) := by
  have single {w : SymbolTable.Write} (hw : u = s.table.apply w) (he : Effect p s a [] [w]) :
      ∃ binding others, Effect p s a binding others ∧ u = s.table.applyAll (binding ++ others) :=
    ⟨[], [w], he, hw⟩
  cases a with
  | declare d =>
    obtain ⟨hname, type, htype, hcases⟩ := declaration_passes h
    have ha : (Action.declare d).declares? = some ⟨d.name, type, firstValue d type, .counts⟩ := by
      simp [Action.declares?, htype]
    rcases hcases with ⟨hnone, v, hv, rfl⟩ | ⟨v, hsome, hv, rfl⟩
    · exact ⟨[.declare d.name v], [], .declaring ha hname
        (.first hnone hv (firstValue_type htype hv)) (.none rfl rfl), rfl⟩
    · exact ⟨[.declare d.name v], [], .declaring ha hname (.again rfl hsome hv) (.none rfl rfl),
        rfl⟩
  | configure c =>
    obtain ⟨hfree, _, _, _, -, -, -, hu⟩ := configuration_passes h
    exact single hu (.other rfl ⟨List.forall_mem_singleton.2 rfl, .nothing, .nothing,
      .entry hfree _⟩ nofun)
  | globalPicture picture =>
    obtain ⟨hfree, value, hu⟩ := globalPicture_passes h
    exact single hu (.other rfl ⟨List.forall_mem_singleton.2 rfl, .nothing, .nothing,
      .entry hfree value⟩ nofun)
  | subPicture picture posX posY =>
    obtain ⟨hset, entry, hentry, hu⟩ := subPicture_passes h
    exact single hu (.other rfl ⟨List.forall_mem_singleton.2 rfl, .item hentry, .nothing,
      .nothing⟩ fun _ _ _ _ => hset)
  | showParam q =>
    obtain ⟨hname, t, ws, hbind, hws, hu⟩ := shownParam_passes h
    exact parameter_effect rfl rfl (isScalar_valueType _) (.none rfl rfl) rfl hname
      (fun _ => ⟨rfl, Value.type_zeroOf _⟩) hbind hws hu
  | checkbox q =>
    obtain ⟨hname, hsubtype, t, ws, hbind, hws, hu⟩ := checkboxParam_passes h
    exact parameter_effect rfl rfl (choice_type hsubtype) (.mark rfl rfl)
      (stored_requiredMark _ _ _) hname (fun _ => ⟨rfl, Value.type_zeroOf _⟩) hbind hws hu
  | userInput q =>
    obtain ⟨hname, initial, t, ws, hinitial, hbind, hws, hu⟩ := inputParam_passes h
    exact parameter_effect rfl rfl (isScalar_valueType _) (.none rfl rfl) rfl hname
      (fun hnone => ⟨hinitial hnone, defaultValue_type (hinitial hnone)⟩) hbind hws hu
  | radio q =>
    obtain ⟨hname, hsubtype, t, ws, hbind, hws, hu⟩ := radioParam_passes h
    exact parameter_effect rfl rfl (choice_type hsubtype) (.mark rfl rfl)
      (stored_requiredMark _ _ _) hname (fun _ => ⟨rfl, Value.type_zeroOf _⟩) hbind hws hu
  | select q =>
    change Passes (selection q) p s () u at h
    unfold selection at h
    cases hq : q.target with
    | unspecified =>
      rw [hq] at h
      have hdeclares : (Action.select q).declares? = none := congrArg SelectTarget.declares? hq
      have htracks : (Action.select q).tracks? = none := congrArg SelectTarget.tracks? hq
      exact ⟨[], [], .other hdeclares (.none htracks rfl) nofun, h.pure.2⟩
    | one name required =>
      rw [hq] at h
      obtain ⟨kind, hk, hseveral, haccepts⟩ : ∃ kind, (SelectTarget.one name required).kind? =
          some kind ∧ kind.several? = some false ∧ kind.accepts .reference = true := by
        cases required <;> exact ⟨_, rfl, rfl, rfl⟩
      obtain ⟨hname, hfree, options, hm, hu⟩ := singleSelection_passes hseveral h
      exact selection_effect (congrArg SelectTarget.declares? hq)
        ((congrArg SelectTarget.kind? hq).trans hk) haccepts (congrArg SelectTarget.tracks? hq)
        hname hfree rfl rfl hm hu
    | many name maxSel required =>
      rw [hq] at h
      obtain ⟨kind, hk, hseveral, haccepts⟩ : ∃ kind, (SelectTarget.many name maxSel required).kind?
          = some kind ∧ kind.several? = some true ∧ kind.accepts .array = true := by
        cases required <;> exact ⟨_, rfl, rfl, rfl⟩
      obtain ⟨hname, hfree, options, hm, hu⟩ := multipleSelection_passes hseveral h
      exact selection_effect (congrArg SelectTarget.declares? hq)
        ((congrArg SelectTarget.kind? hq).trans hk) haccepts (congrArg SelectTarget.tracks? hq)
        hname hfree rfl rfl hm hu
  | table q =>
    obtain ⟨hname, value, hvalue, hcases⟩ := selectionTable_passes h
    have htype : value.type = .map := tableValue_type hvalue
    rcases hcases with ⟨hnone, rfl⟩ | ⟨hbound, rfl⟩
    · exact ⟨[.declare q.identifier value], [], .declaring rfl hname (.first hnone hvalue htype)
        (.none rfl rfl), rfl⟩
    · exact ⟨[.overwrite q.identifier value], [], .declaring rfl hname
        (.replaced rfl hbound hvalue htype) (.none rfl rfl), rfl⟩
  | invalidate name =>
    obtain ⟨-, hu⟩ := invalidation_passes h
    exact single hu (.other rfl ⟨List.forall_mem_singleton.2 rfl, .item rfl, .nothing, .nothing⟩
      nofun)
  | assign lhs rhs id =>
    obtain ⟨-, _, _, _, _, _, -, -, -, -, -, -, hu⟩ := assignment_passes h
    exact single hu (.other rfl ⟨List.forall_mem_singleton.2 rfl, .nothing, .nothing, .nothing⟩
      nofun)
  | evaluate e =>
    exact ⟨[], [], .other rfl (.none rfl rfl) nofun, h.same (bareExpression_tame e)⟩

/-! ## Names -/

/-- What an action that passes makes of a name. It declares another name or none; or it gives the
name its first value; or it finds it bound, and counts the declaration or replaces the value. -/
inductive NameEffect (p : Place) (s : Session) (a : Action) (u : SymbolTable) (name : String) :
    Prop where
  | kept (hd : ∀ d, a.declares? = some d → d.name ≠ name)
      (hb : u.binding? name = s.table.binding? name)
      (hl : u.baseline name = s.table.baseline name)
  | first {d : Declares} {v : Value} (hd : a.declares? = some d) (hname : d.name = name)
      (hid : isIdentifier name = true) (hfree : s.table.binding? name = none)
      (hv : (d.value p s).1 = .ok v) (ht : v.type = d.type)
      (hb : u.binding? name = some { value := v }) (hl : u.baseline name = some v)
  | again {d : Declares} {b : Binding} (hd : a.declares? = some d) (hname : d.name = name)
      (hr : d.rebinding = .counts) (hbound : s.table.binding? name = some b)
      (ht : b.value.type = d.type) (hb : u.binding? name = some { b with count := b.count + 1 })
      (hl : u.baseline name = s.table.baseline name)
  | replaced {d : Declares} {b : Binding} {v : Value} (hd : a.declares? = some d)
      (hname : d.name = name) (hr : d.rebinding = .replaces)
      (hbound : s.table.binding? name = some b) (hv : (d.value p s).1 = .ok v)
      (ht : v.type = d.type)
      (hb : u.binding? name = some { b with value := v, generation := b.generation + 1 })
      (hl : u.baseline name = s.table.baseline name)

/-- The writes that bind what an action declares leave every other name. -/
theorem Binds.other {found : Option Declares} {binding : List SymbolTable.Write} {name : String}
    (h : Binds p s found binding) (hne : ∀ d, found = some d → d.name ≠ name) :
    (s.table.applyAll binding).binding? name = s.table.binding? name ∧
      (s.table.applyAll binding).baseline name = s.table.baseline name := by
  have hdeclare {d : Declares} (hd : name ≠ d.name) (v : Value) :
      (s.table.apply (.declare d.name v)).binding? name = s.table.binding? name ∧
        (s.table.apply (.declare d.name v)).baseline name = s.table.baseline name :=
    ⟨(s.table.binding?_declare d.name v name).trans (if_neg hd),
      (s.table.baseline_declare d.name v name).trans (if_neg fun hsame => hd hsame.1)⟩
  cases h with
  | nothing => exact ⟨rfl, rfl⟩
  | first => exact hdeclare (hne _ rfl).symm _
  | again => exact hdeclare (hne _ rfl).symm _
  | @replaced d v =>
    exact ⟨(s.table.binding?_overwrite d.name v name).trans (if_neg (hne d rfl).symm),
      s.table.baseline_overwrite d.name v name⟩

theorem Effect.name {a : Action} {binding others : List SymbolTable.Write}
    (h : Effect p s a binding others) (name : String) :
    NameEffect p s a (s.table.applyAll (binding ++ others)) name := by
  obtain ⟨⟨hapart, -⟩, hid, hbinds, -⟩ := h
  -- The other writes leave the bindings alone, so those that bind tell what becomes of the name.
  have hothers := SymbolTable.bindings_applyAll hapart (s.table.applyAll binding)
  rw [← SymbolTable.applyAll_append] at hothers
  have hb : (s.table.applyAll (binding ++ others)).binding? name =
      (s.table.applyAll binding).binding? name := congrArg (List.lookup name) hothers.1
  have hl : (s.table.applyAll (binding ++ others)).baseline name =
      (s.table.applyAll binding).baseline name := congrArg (List.lookup name) hothers.2
  generalize s.table.applyAll (binding ++ others) = u at hb hl ⊢
  by_cases hnamed : ∃ d, a.declares? = some d ∧ d.name = name
  · obtain ⟨d, ha, rfl⟩ := hnamed
    rw [ha] at hbinds
    cases hbinds with
    | @first _ v hfree hv ht =>
      have hnone : s.table.binding? d.name = none := Option.map_eq_none_iff.1 hfree
      have hdeclare := s.table.binding?_declare d.name v d.name
      have hvalue := s.table.baseline_declare d.name v d.name
      rw [if_pos rfl, hnone] at hdeclare
      rw [if_pos ⟨rfl, hnone⟩] at hvalue
      exact .first ha rfl (hid d ha) hnone hv ht (hb.trans hdeclare) (hl.trans hvalue)
    | @again _ v hr hbound ht =>
      obtain ⟨b, hsome, rfl⟩ := Option.map_eq_some_iff.1 hbound
      have hdeclare := s.table.binding?_declare d.name b.value d.name
      have hvalue := s.table.baseline_declare d.name b.value d.name
      rw [if_pos rfl, hsome] at hdeclare
      rw [if_neg fun hfree => Option.some_ne_none b (hsome.symm.trans hfree.2)] at hvalue
      exact .again ha rfl hr hsome ht (hb.trans hdeclare) (hl.trans hvalue)
    | @replaced _ v hr hbound hv ht =>
      obtain ⟨b, hsome⟩ := Option.ne_none_iff_exists'.1 fun hnone =>
        hbound (Option.map_eq_none_iff.2 hnone)
      have hoverwrite := s.table.binding?_overwrite d.name v d.name
      rw [if_pos rfl, hsome] at hoverwrite
      exact .replaced ha rfl hr hsome hv ht (hb.trans hoverwrite)
        (hl.trans (s.table.baseline_overwrite d.name v d.name))
  · have hne (d : Declares) (hd : a.declares? = some d) : d.name ≠ name :=
      fun hname => hnamed ⟨d, hd, hname⟩
    obtain ⟨hb', hl'⟩ := hbinds.other hne
    exact .kept hne (hb.trans hb') (hl.trans hl')

end Check

end DialogScript
