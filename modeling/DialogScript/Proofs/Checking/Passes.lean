import DialogScript.Proofs.Checking.Options

/-!
Checks that pass. The diagnostics that a check finds do not matter to it, so a check that passes is
told by its result and by the table that it leaves. The checks of actions are taken apart here: what
each of them has found, and the writes that it has made.
-/

namespace DialogScript.Check

variable {α β : Type} {P : SymbolTable.Write → Prop} {m : Check α} {f : α → Check β} {p : Place}
  {s : Session} {a : α} {b : β} {u : SymbolTable}

/-- A check passes with a result and leaves a table, after some diagnostics. -/
def Passes (m : Check α) (p : Place) (s : Session) (a : α) (u : SymbolTable) : Prop :=
  ∃ ds v, m p { s with diagnostics := ds } = (.ok a, v) ∧ v.table = u

/-- A check that makes no write leaves the table, and where the run stands. -/
theorem Tame.keeps (h : Tame noWrite m) (p : Place) (s : Session) :
    (m p s).2.table = s.table ∧ (m p s).2.around = s.around := by
  obtain ⟨ws, hnone, hws⟩ := h p s
  obtain ⟨-, ds, hs, -⟩ := hws s (.refl s)
  obtain rfl : ws = [] := List.eq_nil_iff_forall_not_mem.2 hnone
  rw [hs]
  exact ⟨rfl, rfl⟩

theorem bind_assoc {γ : Type} (m : Check α) (f : α → Check β) (g : β → Check γ) :
    (m >>= f) >>= g = m >>= fun a => f a >>= g := by
  funext p s
  rw [bind_apply, bind_apply, bind_apply]
  cases m p s with
  | mk r s' => cases r <;> rfl

theorem ite_bind {c : Prop} [Decidable c] (m n : Check α) (f : α → Check β) :
    (if c then m else n) >>= f = if c then m >>= f else n >>= f := by
  split <;> rfl

theorem bind_ok {v : Session} (h : (m >>= f) p s = (.ok b, v)) :
    ∃ a, (m p s).1 = .ok a ∧ f a p (m p s).2 = (.ok b, v) := by
  cases hm : (m p s).1 with
  | ok a => exact ⟨a, rfl, (bind_of_ok hm f).symm.trans h⟩
  | error e =>
    rw [bind_of_error hm] at h
    cases h

theorem map_ok {f : α → β} (h : ((f <$> m) p s).1 = .ok b) : ∃ a, (m p s).1 = .ok a ∧ f a = b := by
  obtain ⟨a, ha, hf⟩ := bind_ok (Prod.ext h rfl)
  have hresult := congrArg Prod.fst hf
  cases hresult
  exact ⟨a, ha, rfl⟩

/-- The result of two checks, the first of which makes no write. -/
theorem bind_result (hm : Tame noWrite m) (hf : Tame noWrite (f a)) (ha : (m p s).1 = .ok a)
    (hb : (f a p s).1 = .ok b) : ((m >>= f) p s).1 = .ok b := by
  rw [bind_of_ok ha]
  obtain ⟨ht, haround⟩ := hm.keeps p s
  obtain ⟨ws, -, hws⟩ := hf p s
  rw [(hws (m p s).2 ⟨by rw [ht], by rw [haround], by rw [haround]⟩).1]
  exact hb

namespace Passes

theorem of_run {v : Session} (h : m p s = (.ok a, v)) : Passes m p s a v.table :=
  ⟨s.diagnostics, v, h, rfl⟩

/-- A check that passes after some diagnostics does so after any. -/
theorem result (hm : Tame P m) (h : Passes m p s a u) : (m p s).1 = .ok a := by
  obtain ⟨ds, v, hr, -⟩ := h
  obtain ⟨ws, -, hws⟩ := hm p s
  -- A session with other diagnostics is alike, and a tame check has the same result in it.
  obtain ⟨hsame, -⟩ := hws { s with diagnostics := ds } ⟨rfl, rfl, rfl⟩
  rw [← hsame, hr]

/-- The second of two checks finds what the first has left. -/
theorem bind (hm : Tame P m) (h : Passes (m >>= f) p s b u) :
    ∃ a t, Passes m p s a t ∧ Passes (f a) p (s.withTable fun _ => t) b u := by
  obtain ⟨ds, v, hr, hu⟩ := h
  obtain ⟨a, ha, hf⟩ := bind_ok hr
  obtain ⟨ws, -, hws⟩ := hm p { s with diagnostics := ds }
  obtain ⟨-, es, hs, -⟩ := hws _ (.refl _)
  rw [hs] at hf
  exact ⟨a, s.table.applyAll ws, ⟨ds, _, Prod.ext ha rfl, congrArg Session.table hs⟩, ds ++ es, v,
    hf, hu⟩

/-- The first of two checks makes no write: both find the same. -/
theorem read (hm : Tame noWrite m) (h : Passes (m >>= f) p s b u) :
    ∃ a, (m p s).1 = .ok a ∧ Passes (f a) p s b u := by
  obtain ⟨a, t, hfirst, hlast⟩ := bind hm h
  obtain ⟨ds, v, hr, rfl⟩ := id hfirst
  have hsame := (hm.keeps p { s with diagnostics := ds }).1
  rw [hr] at hsame
  dsimp only at hsame
  rw [hsame] at hlast
  exact ⟨a, hfirst.result hm, hlast⟩

/-- A check that makes no write leaves the table that it finds. -/
theorem same (hm : Tame noWrite m) (h : Passes m p s a u) : u = s.table := by
  obtain ⟨ds, v, hr, rfl⟩ := h
  have hsame := (hm.keeps p { s with diagnostics := ds }).1
  rw [hr] at hsame
  exact hsame

theorem write {w : SymbolTable.Write} (h : Passes (Check.write w) p s () u) :
    u = s.table.apply w := by
  obtain ⟨ds, v, hr, rfl⟩ := h
  cases hr
  rfl

theorem declare {name : String} {value : Value} {n : Nat}
    (h : Passes (Check.declare name value) p s n u) : u = s.table.apply (.declare name value) := by
  obtain ⟨ds, v, hr, rfl⟩ := h
  cases hr
  rfl

theorem pure {b : α} (h : Passes (Pure.pure b : Check α) p s a u) : a = b ∧ u = s.table := by
  obtain ⟨ds, v, hr, rfl⟩ := h
  cases hr
  exact ⟨rfl, rfl⟩

theorem not_fail {problem : Problem} {span : Option Span} :
    ¬Passes (failAt problem span : Check α) p s a u := by
  rintro ⟨ds, v, hr, -⟩
  cases hr

end Passes

/-! ## Shared rules -/

theorem isIdentifier_of_ok {name field : String}
    (h : (requireIdentifier name field p s).1 = .ok ()) : isIdentifier name = true := by
  change ((if name = "" then fail (.missingField p.kind field)
    else if isIdentifier name then pure () else fail (.invalidIdentifier p.kind name) :
      Check Unit) p s).1 = _ at h
  split at h
  · cases h
  split at h
  · assumption
  · cases h

theorem mem_of_ok {name : String} {subtype : ParamSubtype} {allowed : List ParamSubtype}
    (h : (requireSubtype name subtype allowed p s).1 = .ok ()) : subtype ∈ allowed :=
  (requireSubtype_ensures name subtype allowed).of_ok h

/-- A parameter that is bound: it has been declared with its first value, or with the value of its
type that it has. -/
theorem bindParameter_passes {name : String} {type : ValueType} {initial : Value}
    (h : Passes (bindParameter name type initial) p s () u) :
    (s.table.lookup name = none ∧ u = s.table.apply (.declare name initial)) ∨
      ∃ v, s.table.lookup name = some v ∧ v.type = type ∧
        u = s.table.apply (.declare name v) := by
  obtain ⟨bound, hbound, h⟩ := h.read (.lookup name)
  cases hbound
  split at h
  · rename_i hnone
    obtain ⟨n, t, hd, h⟩ := h.bind (.declare (P := anyWrite) trivial)
    obtain ⟨-, rfl⟩ := h.pure
    exact .inl ⟨hnone, hd.declare⟩
  · rename_i v hsome
    split at h
    · exact absurd h Passes.not_fail
    rename_i htype
    obtain ⟨kind, -, h⟩ := h.read .kind
    obtain ⟨n, t, hd, h⟩ := h.bind (.declare (P := anyWrite) trivial)
    obtain rfl := h.same (.remark _)
    exact .inr ⟨v, hsome, Decidable.not_not.1 htype, hd.declare⟩

theorem storeOptions_passes {name : String} {options : Options}
    (h : Passes (storeOptions name options) p s () u) :
    u = s.table.apply (.setOptions p.kind name (Value.mapOf options)) := by
  obtain ⟨kind, hkind, h⟩ := h.read .kind
  cases hkind
  obtain ⟨_, t, hw, h⟩ := h.bind (.write (P := anyWrite) trivial)
  obtain rfl := h.same (.remark _)
  exact hw.write

theorem registerRequired_passes {list : TrackedList} {name : String}
    (h : Passes (registerRequired list name) p s () u) :
    u = s.table.apply (.appendTracked list (.string name)) := by
  obtain ⟨_, t, hw, h⟩ := h.bind (.write (P := anyWrite) trivial)
  obtain rfl := h.same (.remark _)
  exact hw.write

/-! ## Parameters -/

/-- The writes after a command of a kind has bound a name of a type: its options, if there are any,
and then a mark. -/
inductive Configures (p : Place) (kind : CommandKind) (type : ValueType) (name : String)
    (mark : List SymbolTable.Write) : List SymbolTable.Write → Prop where
  | plain (h : mark = []) : Configures p kind type name mark []
  | stored {options : Options} (h : WellFormed p.host kind type (Value.mapOf options)) :
      Configures p kind type name mark (.setOptions p.kind name (Value.mapOf options) :: mark)

/-- Sound options of a command that is no selection. -/
theorem Configures.sound {kind : CommandKind} {type : ValueType} {name : String}
    {mark : List SymbolTable.Write} {options : Options} (h : Sound kind type options)
    (hk : kind.several? = none) :
    Configures p kind type name mark (.setOptions p.kind name (Value.mapOf options) :: mark) := by
  refine .stored (h.wellFormed fun several hseveral => ?_)
  rw [hk] at hseveral
  cases hseveral

/-- The mark of a parameter that is required. -/
def requiredMark (required : Bool) (list : TrackedList) (name : String) : List SymbolTable.Write :=
  if required then [.appendTracked list (.string name)] else []

theorem stored_passes {name : String} {options : Options} {required : Bool} {list : TrackedList}
    (h : Passes (storeOptions name options >>= fun _ =>
      if required then registerRequired list name else pure ()) p s () u) :
    u = s.table.applyAll (.setOptions p.kind name (Value.mapOf options) ::
      requiredMark required list name) := by
  obtain ⟨_, t, hstore, h⟩ := h.bind (storeOptions_tame name options)
  rw [storeOptions_passes hstore] at h
  cases required with
  | true => exact registerRequired_passes h
  | false => exact h.pure.2

/-- A parameter that is shown. -/
theorem shownParam_passes {q : ShownParam} (h : Passes (shownParam q) p s () u) :
    isIdentifier q.name = true ∧ ∃ t ws,
      Passes (bindParameter q.name q.subtype.valueType (Value.zeroOf q.subtype.valueType)) p s ()
        t ∧ Configures p .showParam q.subtype.valueType q.name [] ws ∧ u = t.applyAll ws := by
  obtain ⟨_, hname, h⟩ := h.read (requireIdentifier_tame _ _)
  obtain ⟨_, -, h⟩ := h.read (requireSubtype_tame _ _ _)
  obtain ⟨_, t, hbind, h⟩ := h.bind (bindParameter_tame _ _ _)
  refine ⟨isIdentifier_of_ok hname, t, ?_⟩
  split at h
  · obtain ⟨options, hoptions, h⟩ := h.read (displayOptions_tame _ _)
    have sound : Sound .showParam q.subtype.valueType options :=
      (displayOptions_sound _ _).of_ok hoptions
    exact ⟨_, hbind, .sound sound rfl, storeOptions_passes h⟩
  · exact ⟨_, hbind, .plain rfl, h.pure.2⟩

theorem checkboxParam_passes {q : CheckboxParam} (h : Passes (checkboxParam q) p s () u) :
    isIdentifier q.name = true ∧ q.subtype ∈ choiceSubtypes ∧ ∃ t ws,
      Passes (bindParameter q.name q.subtype.valueType (Value.zeroOf q.subtype.valueType)) p s ()
        t ∧ Configures p .checkboxParam q.subtype.valueType q.name
          (requiredMark q.required .requiredCheckboxes q.name) ws ∧
      u = t.applyAll ws := by
  obtain ⟨_, hname, h⟩ := h.read (requireIdentifier_tame _ _)
  obtain ⟨_, hsubtype, h⟩ := h.read (requireSubtype_tame _ _ _)
  obtain ⟨_, t, hbind, h⟩ := h.bind (bindParameter_tame _ _ _)
  refine ⟨isIdentifier_of_ok hname, mem_of_ok hsubtype, t, ?_⟩
  split at h
  · obtain ⟨order, horder, h⟩ := h.read (displayOrder_tame _)
    obtain ⟨shown, hshown, h⟩ := h.read (displayOptions_tame _ _)
    obtain ⟨tag, htag, h⟩ := h.read (tag_tame _ _)
    have sound : Sound .checkboxParam q.subtype.valueType _ := (((required_sound q.required).append
      ((displayOrder_sound _).of_ok horder)).append
      ((displayOptions_sound _ _).of_ok hshown)).append ((tag_sound _ _).of_ok htag)
    exact ⟨_, hbind, .sound sound rfl, stored_passes h⟩
  · -- A required checkbox has options, so one without options leaves no mark either.
    rename_i hgiven
    have hrequired : q.required = false := by
      simp only [Bool.or_eq_true, not_or, Bool.not_eq_true] at hgiven
      exact hgiven.1.1.1
    exact ⟨_, hbind, .plain (by rw [hrequired]; rfl), h.pure.2⟩

/-- The options of an input field that gives any. -/
def inputOptions (q : InputParam) : Check Options := do
  let targets ← defaultFor q
  let width ← inputWidth q
  let places ← decimalPlaces q
  let model ← optionalEntry q.model "model" fun e =>
    Value.string <$> nonEmptyText e ("model of " ++ quote q.name)
  let order ← displayOrder q.displayOrder
  let range ← inputRange q
  let shown ← displayOptions q.name q.display
  pure ([("required", .bool q.required), ("no_update", .bool q.noUpdate)] ++ targets ++ width
    ++ places ++ model ++ order ++ range ++ shown)

theorem inputOptions_tame {P : SymbolTable.Write → Prop} (q : InputParam) :
    Tame P (inputOptions q) := by
  refine .bind (defaultFor_tame q) fun _ => .bind (inputWidth_tame q) fun _ => ?_
  refine .bind (decimalPlaces_tame q) fun _ => .bind (textEntry_tame _ _ _) fun _ => ?_
  refine .bind (displayOrder_tame _) fun _ => .bind (inputRange_tame q) fun _ => ?_
  exact .bind (displayOptions_tame _ _) fun _ => .pure _

theorem inputOptions_sound {tables : HostConfig} (q : InputParam) :
    Ensures tables (Sound .userInputParam q.subtype.valueType) (inputOptions q) := by
  have sound {m : Check Options}
    (h : Ensures tables (Sound .userInputParam q.subtype.valueType) m) := h
  refine .bind (sound (defaultFor_sound q)) fun _ htargets => ?_
  refine .bind (sound (inputWidth_sound q)) fun _ hwidth => ?_
  refine .bind (decimalPlaces_sound q) fun _ hplaces => ?_
  refine .bind (sound (textEntry_sound _ _ (by decide))) fun _ hmodel => ?_
  refine .bind (sound (displayOrder_sound _)) fun _ horder => ?_
  refine .bind (inputRange_sound q) fun _ hrange => ?_
  refine .bind (sound (displayOptions_sound _ _)) fun _ hshown => .pure ?_
  have first := (((inputFlags_sound q).append htargets).append hwidth).append hplaces
  exact (((first.append hmodel).append horder).append hrange).append hshown

/-- An input field is bound, and stores its options if it gives any. -/
theorem inputParam_eq (q : InputParam) :
    inputParam q = (do
      requireIdentifier q.name "name"
      requireSubtype q.name q.subtype ParamSubtype.all
      bindInput q
      if q.hasOptions then inputOptions q >>= storeOptions q.name else pure ()) := by
  unfold inputParam inputOptions
  simp only [bind_assoc]
  rfl

theorem inputParam_stored {q : InputParam} (h : Passes (inputParam q) p s () u) :
    isIdentifier q.name = true ∧ ∃ t, Passes (bindInput q) p s () t ∧
      ((q.hasOptions = false ∧ u = t) ∨ q.hasOptions = true ∧ ∃ options,
        (inputOptions q p (s.withTable fun _ => t)).1 = .ok options ∧
        u = t.apply (.setOptions p.kind q.name (Value.mapOf options))) := by
  rw [inputParam_eq] at h
  obtain ⟨_, hname, h⟩ := h.read (requireIdentifier_tame _ _)
  obtain ⟨_, -, h⟩ := h.read (requireSubtype_tame _ _ _)
  obtain ⟨_, t, hbind, h⟩ := h.bind (bindInput_tame q)
  refine ⟨isIdentifier_of_ok hname, t, hbind, ?_⟩
  split at h
  · rename_i hgiven
    obtain ⟨options, hoptions, h⟩ := h.read (inputOptions_tame q)
    exact .inr ⟨hgiven, options, hoptions, storeOptions_passes h⟩
  · rename_i hgiven
    exact .inl ⟨Bool.eq_false_iff.2 hgiven, h.pure.2⟩

/-- An input field: its default is evaluated only if it is not bound. -/
theorem inputParam_passes {q : InputParam} (h : Passes (inputParam q) p s () u) :
    isIdentifier q.name = true ∧ ∃ initial t ws,
      (s.table.lookup q.name = none → (defaultValue q.subtype q.default p s).1 = .ok initial) ∧
      Passes (bindParameter q.name q.subtype.valueType initial) p s () t ∧
      Configures p .userInputParam q.subtype.valueType q.name [] ws ∧ u = t.applyAll ws := by
  obtain ⟨hname, t, hbind, hstored⟩ := inputParam_stored h
  obtain ⟨initial, hinitial, hbind⟩ := hbind.read (inputValue_tame q)
  have hdefault (hnone : s.table.lookup q.name = none) :
      (defaultValue q.subtype q.default p s).1 = .ok initial := by
    have hfree : s.table.contains q.name = false := by
      rw [SymbolTable.contains_eq, hnone]
      rfl
    change ((if s.table.contains q.name then pure (Value.zeroOf q.subtype.valueType)
      else defaultValue q.subtype q.default : Check Value) p s).1 = _ at hinitial
    rwa [hfree] at hinitial
  rcases hstored with ⟨-, rfl⟩ | ⟨-, options, hoptions, rfl⟩
  · exact ⟨hname, initial, u, [], hdefault, hbind, .plain rfl, rfl⟩
  · exact ⟨hname, initial, t, _, hdefault, hbind,
      .sound ((inputOptions_sound q).of_ok hoptions) rfl, rfl⟩

theorem radioParam_passes {q : RadioParam} (h : Passes (radioParam q) p s () u) :
    isIdentifier q.name = true ∧ q.subtype ∈ choiceSubtypes ∧ ∃ t ws,
      Passes (bindParameter q.name q.subtype.valueType (Value.zeroOf q.subtype.valueType)) p s ()
        t ∧ Configures p .radioButtonParam q.subtype.valueType q.name
          (requiredMark q.required .requiredRadios q.name) ws ∧
      u = t.applyAll ws := by
  obtain ⟨_, hname, h⟩ := h.read (requireIdentifier_tame _ _)
  obtain ⟨_, hsubtype, h⟩ := h.read (requireSubtype_tame _ _ _)
  split at h
  · exact absurd h Passes.not_fail
  obtain ⟨_, t, hbind, h⟩ := h.bind (bindParameter_tame _ _ _)
  refine ⟨isIdentifier_of_ok hname, mem_of_ok hsubtype, t, ?_⟩
  obtain ⟨_, -, h⟩ := h.read (remarkIf_tame _ _)
  split at h
  · obtain ⟨options, hoptions, h⟩ := h.read (radioOptions_tame q)
    obtain ⟨order, horder, h⟩ := h.read (displayOrder_tame _)
    obtain ⟨shown, hshown, h⟩ := h.read (displayOptions_tame _ _)
    have sound : Sound .radioButtonParam q.subtype.valueType _ :=
      ((((radioOptions_sound q).of_ok hoptions).append (required_sound q.required)).append
        ((displayOrder_sound _).of_ok horder)).append ((displayOptions_sound _ _).of_ok hshown)
    exact ⟨_, hbind, .sound sound rfl, stored_passes h⟩
  · rename_i hgiven
    have hrequired : q.required = false := by
      simp only [Bool.or_eq_true, not_or, Bool.not_eq_true] at hgiven
      exact hgiven.1.1.1
    exact ⟨_, hbind, .plain (by rw [hrequired]; rfl), h.pure.2⟩

/-! ## Selections -/

/-- A target that can be taken is an identifier that is not bound. -/
theorem takeTarget_ok {q : Selection} {name field : String}
    (h : (takeTarget q name field p s).1 = .ok ()) :
    isIdentifier name = true ∧ s.table.lookup name = none ∧ q.types ≠ [] := by
  have hpass : Passes (takeTarget q name field) p s () _ := .of_run (Prod.ext h rfl)
  obtain ⟨_, hname, hpass⟩ := hpass.read (requireIdentifier_tame _ _)
  obtain ⟨bound, hbound, hpass⟩ := hpass.read (.isBound name)
  cases hbound
  split at hpass
  · exact absurd hpass Passes.not_fail
  rename_i hfree
  refine ⟨isIdentifier_of_ok hname, by simpa [SymbolTable.contains_eq] using hfree, fun hnone => ?_⟩
  rw [hnone] at hpass
  obtain ⟨_, -, hpass⟩ := hpass.read .kind
  exact absurd hpass Passes.not_fail

theorem bindSelection_passes {name : String} {value : Value} {required : Bool} {options : Options}
    (h : Passes (bindSelection name value required options) p s () u) :
    u = s.table.applyAll (.declare name value ::
      .setOptions p.kind name (Value.mapOf options) ::
        requiredMark required .requiredSelects name) := by
  obtain ⟨n, t, hdeclare, h⟩ := h.bind (.declare (P := anyWrite) trivial)
  rw [hdeclare.declare] at h
  exact stored_passes h

theorem singleSelection_passes {q : Selection} {name : String} {required : Bool}
    {kind : CommandKind} (hk : kind.several? = some false)
    (h : Passes (singleSelection q name required) p s () u) :
    isIdentifier name = true ∧ s.table.lookup name = none ∧ ∃ options,
      WellFormed p.host kind .reference (Value.mapOf options) ∧
      u = s.table.applyAll (.declare name (.reference none) ::
        .setOptions p.kind name (Value.mapOf options) ::
          requiredMark required .requiredSelects name) := by
  obtain ⟨_, htarget, h⟩ := h.read (takeTarget_tame _ _ _)
  obtain ⟨types, htypes, h⟩ := h.read (typeNames_tame _ _ _)
  obtain ⟨_, -, h⟩ := h.read (noteUnknown_tame _)
  obtain ⟨options, hoptions, h⟩ := h.read (selectionOptions_tame _ _ _ _)
  obtain ⟨hname, hfree, hgiven⟩ := takeTarget_ok htarget
  obtain ⟨hlength, -⟩ := (typeNames_ensures false 0 q.types).of_ok htypes
  obtain ⟨sound, others, rfl⟩ :=
    (selectionOptions_ensures kind .reference q name required types).of_ok hoptions
  refine ⟨hname, hfree, _, sound.wellFormed ?_, bindSelection_passes h⟩
  rintro _ hseveral
  obtain rfl := Option.some.inj (hk.symm.trans hseveral)
  refine selectsTypes_of_head others (fun hnone => hgiven ?_) nofun
  exact List.length_eq_zero_iff.1 (hlength.symm.trans (by rw [hnone]; rfl))

theorem multipleSelection_passes {q : Selection} {name : String} {maxSel : Expr} {required : Bool}
    {kind : CommandKind} (hk : kind.several? = some true)
    (h : Passes (multipleSelection q name maxSel required) p s () u) :
    isIdentifier name = true ∧ s.table.lookup name = none ∧ ∃ options,
      WellFormed p.host kind .array (Value.mapOf options) ∧
      u = s.table.applyAll (.declare name (.array []) ::
        .setOptions p.kind name (Value.mapOf options) ::
          requiredMark required .requiredSelects name) := by
  obtain ⟨_, htarget, h⟩ := h.read (takeTarget_tame _ _ _)
  obtain ⟨types, htypes, h⟩ := h.read (typeNames_tame _ _ _)
  obtain ⟨_, -, h⟩ := h.read (requirePresent_tame _ _)
  obtain ⟨bound, -, h⟩ := h.read (integer_tame maxSel)
  obtain ⟨common, hcommon, h⟩ := h.read (selectionOptions_tame _ _ _ _)
  obtain ⟨multiCad, hmultiCad, h⟩ := h.read (optionalEntry_tame _ _ fun e => (text_tame e).map _)
  obtain ⟨model, hmodel, h⟩ := h.read (filterEntry_tame _ _)
  obtain ⟨feature, hfeature, h⟩ := h.read (filterEntry_tame _ _)
  obtain ⟨geometry, hgeometry, h⟩ := h.read (filterEntry_tame _ _)
  obtain ⟨reference, hreference, h⟩ := h.read (filterEntry_tame _ _)
  obtain ⟨identifier, hidentifier, h⟩ :=
    h.read (optionalEntry_tame _ _ fun e => (text_tame e).map _)
  obtain ⟨_, t, hbind, h⟩ := h.bind (bindSelection_tame _ _ _ _)
  obtain ⟨_, -, h⟩ := h.read (requireWritable_tame _)
  obtain rfl := h.same (.remark _)
  obtain ⟨hname, hfree, hgiven⟩ := takeTarget_ok htarget
  obtain ⟨hlength, hknown⟩ := (typeNames_ensures true 0 q.types).of_ok htypes
  obtain ⟨sound, others, rfl⟩ :=
    (selectionOptions_ensures kind .array q name required types).of_ok hcommon
  -- The keys of the other entries have no rule.
  have free {e : Expr} {key : String} {read : Expr → Check Value} {found : Options}
      (hfound : (optionalEntry e key read p s).1 = .ok found) (hkey : key ∈ selectionKeys) :
      Sound kind .array found :=
    (optionalEntry_sound (fun _ _ v _ _ => selectionKeys_rule hkey v)
      (selectionKeys_apart _ hkey)).of_ok hfound
  have bounded : Sound kind .array [("max_sel", .integer bound)] := .one trivial (by decide)
  have first := ((sound.append bounded).append (free hmultiCad (by decide))).append
    (free hmodel (by decide))
  have last := (((first.append (free hfeature (by decide))).append
    (free hgeometry (by decide))).append (free hreference (by decide))).append
    (free hidentifier (by decide))
  refine ⟨hname, hfree, _, last.wellFormed ?_, bindSelection_passes hbind⟩
  rintro _ hseveral
  obtain rfl := Option.some.inj (hk.symm.trans hseveral)
  refine selectsTypes_of_head _ (fun hnone => hgiven ?_) fun _ => hknown rfl
  exact List.length_eq_zero_iff.1 (hlength.symm.trans (by rw [hnone]; rfl))

/-! ## Tables -/

/-- The map that a selection table is bound as. -/
def tableValue (t : SelectionTable) : Check Value := do
  let columns := t.columnCount
  if t.dataTypes.length ≠ columns then fail (.dataTypeCount t.dataTypes.length columns)
  else do
    let types ← columnTypes 0 t.dataTypes
    let options ← texts t.options
    if columns = 0 then fail (.noColumns t.identifier)
    else do
      let named ← columnKeys t.selStrings.tail
      let keys := selectionColumn :: named
      let rows ← tableRows t.identifier keys types 0 t.rows
      let name ← optionalEntry t.name "name" fun e => do
        let s ← text e
        pure (.string (if s = "" then t.identifier else s))
      pure (Value.mapOf
        ([("rows", .array rows), ("columns", Value.strings keys),
          ("options", Value.strings options), ("table_height", .integer t.tableHeight.toInt)]
          ++ name ++ tableFlags t ++ columnNumber "filter_column" t.filterColumn
          ++ columnNumber "filter_only_column" t.filterOnlyColumn))

theorem tableValue_tame (t : SelectionTable) : Tame P (tableValue t) := by
  refine .ite (.fail _) (.bind (columnTypes_tame _ _) fun _ => .bind (texts_tame _) fun _ => ?_)
  refine .ite (.fail _) (.bind (columnKeys_tame _) fun _ => ?_)
  refine .bind (tableRows_tame _ _ _ _ _) fun _ => ?_
  refine .bind (optionalEntry_tame _ _ fun e => ?_) fun _ => .pure _
  exact .bind (text_tame e) fun _ => .pure _

theorem tableValue_type {t : SelectionTable} {v : Value} (h : (tableValue t p s).1 = .ok v) :
    v.type = .map := by
  have hpass : Passes (tableValue t) p s v _ := .of_run (Prod.ext h rfl)
  unfold tableValue at hpass
  dsimp only at hpass
  split at hpass
  · exact absurd hpass Passes.not_fail
  obtain ⟨types, -, hpass⟩ := hpass.read (columnTypes_tame _ _)
  obtain ⟨options, -, hpass⟩ := hpass.read (texts_tame _)
  split at hpass
  · exact absurd hpass Passes.not_fail
  obtain ⟨named, -, hpass⟩ := hpass.read (columnKeys_tame _)
  obtain ⟨rows, -, hpass⟩ := hpass.read (tableRows_tame _ _ _ _ _)
  obtain ⟨name, -, hpass⟩ := hpass.read (optionalEntry_tame _ _ fun e =>
    .bind (text_tame e) fun _ => .pure _)
  rw [hpass.pure.1]
  rfl

/-- A selection table binds its map under its identifier. -/
theorem selectionTable_eq (t : SelectionTable) :
    selectionTable t = (do
      requireIdentifier t.identifier "identifier"
      let value ← tableValue t
      bindTable t.identifier value) := by
  unfold selectionTable tableValue
  simp only [ite_bind, bind_assoc]
  rfl

theorem selectionTable_passes {q : SelectionTable} (h : Passes (selectionTable q) p s () u) :
    isIdentifier q.identifier = true ∧ ∃ value, (tableValue q p s).1 = .ok value ∧
      ((s.table.lookup q.identifier = none ∧ u = s.table.apply (.declare q.identifier value)) ∨
        s.table.lookup q.identifier ≠ none ∧
          u = s.table.apply (.overwrite q.identifier value)) := by
  rw [selectionTable_eq] at h
  obtain ⟨_, hname, h⟩ := h.read (requireIdentifier_tame _ _)
  obtain ⟨value, hvalue, h⟩ := h.read (tableValue_tame q)
  obtain ⟨bound, hbound, h⟩ := h.read (.isBound q.identifier)
  refine ⟨isIdentifier_of_ok hname, value, hvalue, ?_⟩
  cases hbound
  split at h
  · rename_i hbound
    obtain ⟨_, t, hw, h⟩ := h.bind (.write (P := anyWrite) trivial)
    obtain rfl := h.same (.remark _)
    exact .inr ⟨Option.isSome_iff_ne_none.1 (SymbolTable.contains_eq s.table _ ▸ hbound), hw.write⟩
  · rename_i hfree
    obtain ⟨_, t, hd, h⟩ := h.bind (.declare (P := anyWrite) trivial)
    obtain ⟨-, rfl⟩ := h.pure
    exact .inl ⟨by simpa [SymbolTable.contains_eq] using hfree, hd.declare⟩

/-! ## The dialog, declarations and assignments -/

theorem defaultValue_type {subtype : ParamSubtype} {e : Expr} {v : Value}
    (h : (defaultValue subtype e p s).1 = .ok v) : v.type = subtype.valueType := by
  unfold defaultValue at h
  split at h
  · cases h
    exact Value.type_zeroOf _
  · cases subtype <;>
    · obtain ⟨_, -, rfl⟩ := map_ok h
      rfl

theorem firstValue_type {d : Declaration} {type : ValueType} {v : Value}
    (ht : d.kind.valueType? d.subtype = some type) (h : (firstValue d type p s).1 = .ok v) :
    v.type = type := by
  have hpass : Passes (firstValue d type) p s v _ := .of_run (Prod.ext h rfl)
  unfold firstValue at hpass
  split at hpass
  · rename_i subtype hkind hsubtype
    rw [hkind, hsubtype] at ht
    cases ht
    exact defaultValue_type (hpass.result (defaultValue_tame (P := anyWrite) _ _))
  · split at hpass
    · rw [hpass.pure.1]
      exact Value.type_zeroOf type
    · exact absurd hpass Passes.not_fail

/-- A declaration that passes: it has declared its name with a first value of its type, or with the
value of its type that the name has. -/
theorem declaration_passes {d : Declaration} (h : Passes (declaration d) p s () u) :
    isIdentifier d.name = true ∧ ∃ type, d.kind.valueType? d.subtype = some type ∧
      ((s.table.lookup d.name = none ∧ ∃ v, (firstValue d type p s).1 = .ok v ∧
          u = s.table.apply (.declare d.name v)) ∨
        ∃ v, s.table.lookup d.name = some v ∧ v.type = type ∧
          u = s.table.apply (.declare d.name v)) := by
  obtain ⟨_, hname, h⟩ := h.read (requireIdentifier_tame _ _)
  refine ⟨isIdentifier_of_ok hname, ?_⟩
  split at h
  · exact absurd h Passes.not_fail
  rename_i type htype
  obtain ⟨bound, hbound, h⟩ := h.read (.lookup d.name)
  cases hbound
  refine ⟨type, htype, ?_⟩
  split at h
  · rename_i v hsome
    split at h
    · exact absurd h Passes.not_fail
    rename_i hsame
    obtain ⟨n, t, hd, h⟩ := h.bind (.declare (P := anyWrite) trivial)
    obtain rfl := h.same (.remark _)
    exact .inr ⟨v, hsome, Decidable.not_not.1 hsame, hd.declare⟩
  · rename_i hnone
    obtain ⟨v, hv, h⟩ := h.read (firstValue_tame d type)
    obtain ⟨n, t, hd, h⟩ := h.bind (.declare (P := anyWrite) trivial)
    obtain ⟨-, rfl⟩ := h.pure
    exact .inl ⟨hnone, v, hv, hd.declare⟩

theorem invalidation_passes {name : String} (h : Passes (invalidation name) p s () u) :
    isIdentifier name = true ∧
      u = s.table.apply (.appendTracked .invalidatedParams (.string name)) := by
  obtain ⟨_, hname, h⟩ := h.read (requireIdentifier_tame _ _)
  obtain ⟨_, -, h⟩ := h.read (requireScalar_tame name)
  obtain ⟨_, t, hw, h⟩ := h.bind (.write (P := anyWrite) trivial)
  obtain rfl := h.same (.remark _)
  exact ⟨isIdentifier_of_ok hname, hw.write⟩

/-- The configuration is set by a command that finds none, with the sizes that it gives. -/
theorem configuration_passes {c : DialogConfig} (h : Passes (configuration c) p s () u) :
    s.table.singleton .configElem = none ∧ ∃ width height location,
      (size c.width "width" p s).1 = .ok width ∧ (size c.height "height" p s).1 = .ok height ∧
      (height.isSome = true → width.isSome = true) ∧
      u = s.table.apply (.setSingleton .configElem (Value.mapOf (configFlags c
        ++ presentEntry "location_option" Value.string location
        ++ presentEntry "width" Value.double width
        ++ presentEntry "height" Value.double height))) := by
  obtain ⟨set, hset, h⟩ := h.read (.singleton _)
  cases hset
  split at h
  · exact absurd h Passes.not_fail
  rename_i hfree
  obtain ⟨width, hwidth, h⟩ := h.read (size_tame _ _)
  obtain ⟨height, hheight, h⟩ := h.read (size_tame _ _)
  split at h
  · exact absurd h Passes.not_fail
  rename_i hboth
  obtain ⟨location, -, h⟩ := h.read (screenLocation_tame c)
  refine ⟨by simpa using hfree, width, height, location, hwidth, hheight, fun hh => ?_, h.write⟩
  rw [hh, Bool.true_and, Option.isNone_iff_eq_none] at hboth
  exact Option.isSome_iff_ne_none.2 hboth

/-- The main picture is set by a command that finds none. -/
theorem globalPicture_passes {picture : Expr} (h : Passes (globalPicture picture) p s () u) :
    s.table.singleton .globalPicture = none ∧
      ∃ value, u = s.table.apply (.setSingleton .globalPicture value) := by
  obtain ⟨_, -, h⟩ := h.read (requirePresent_tame _ _)
  obtain ⟨set, hset, h⟩ := h.read (.singleton _)
  cases hset
  split at h
  · exact absurd h Passes.not_fail
  rename_i hfree
  obtain ⟨file, -, h⟩ := h.read (nonEmptyText_tame _ _)
  obtain ⟨path, -, h⟩ := h.read (picturePath_tame _)
  obtain ⟨_, t, hw, h⟩ := h.bind (.write (P := anyWrite) trivial)
  obtain rfl := h.same (.remark _)
  exact ⟨by simpa using hfree, _, hw.write⟩

/-- The entry of a picture on the main one. -/
def pictureEntry (picture posX posY : Expr) : Check Value := do
  let file ← nonEmptyText picture "picture file name"
  let path ← picturePath file
  let x ← integer posX
  let y ← integer posY
  pure (Value.mapOf [("path", .string path), ("posX", .integer x), ("posY", .integer y)])

/-- A picture is put on the main one, which must be set. -/
theorem subPicture_passes {picture posX posY : Expr}
    (h : Passes (subPicture picture posX posY) p s () u) :
    s.table.singleton .globalPicture ≠ none ∧
      ∃ entry, (pictureEntry picture posX posY p s).1 = .ok entry ∧
        u = s.table.apply (.appendTracked .subPictures entry) := by
  obtain ⟨_, -, h⟩ := h.read (requirePresent_tame _ _)
  obtain ⟨_, -, h⟩ := h.read (requirePresent_tame _ _)
  obtain ⟨_, -, h⟩ := h.read (requirePresent_tame _ _)
  obtain ⟨main, hmain, h⟩ := h.read (.singleton _)
  cases hmain
  split at h
  · exact absurd h Passes.not_fail
  rename_i hset
  obtain ⟨_, -, h⟩ := h.read (requireInteger_tame _ _)
  obtain ⟨_, -, h⟩ := h.read (requireInteger_tame _ _)
  obtain ⟨file, hfile, h⟩ := h.read (nonEmptyText_tame _ _)
  obtain ⟨path, hpath, h⟩ := h.read (picturePath_tame _)
  obtain ⟨host, -, h⟩ := h.read .host
  obtain ⟨_, -, h⟩ := h.read (remarkIf_tame _ _)
  obtain ⟨x, hx, h⟩ := h.read (integer_tame posX)
  obtain ⟨y, hy, h⟩ := h.read (integer_tame posY)
  refine ⟨fun hnone => hset (by rw [hnone]; rfl), _, ?_, h.write⟩
  refine bind_result (nonEmptyText_tame _ _) ?_ hfile (bind_result (picturePath_tame _) ?_ hpath
    (bind_result (integer_tame posX) ?_ hx (bind_result (integer_tame posY) (.pure _) hy rfl)))
  · exact .bind (picturePath_tame _) fun _ => .bind (integer_tame posX) fun _ =>
      .bind (integer_tame posY) fun _ => .pure _
  · exact .bind (integer_tame posX) fun _ => .bind (integer_tame posY) fun _ => .pure _
  · exact .bind (integer_tame posY) fun _ => .pure _

/-- A value of a type can be assigned to a place of a type: the types are the same, or one is that
of integers and the other that of doubles. -/
def Fits (lhs rhs : ValueType) : Prop :=
  lhs = rhs ∨ (lhs = .double ∧ rhs = .integer) ∨ (lhs = .integer ∧ rhs = .double)

theorem fits_of_ok {text : String} {lhs rhs : ValueType}
    (h : (assignableTypes text lhs rhs p s).1 = .ok ()) : Fits lhs rhs := by
  unfold assignableTypes at h
  split at h
  · exact .inl ‹_›
  split at h
  · exact .inr (.inl ⟨rfl, rfl⟩)
  · exact .inr (.inr ⟨rfl, rfl⟩)
  · cases h

theorem orBreak_ok {r : Except Breakdown α} (h : (eval (Eval.orBreak r) p s).1 = .ok a) :
    r = .ok a := by
  cases r with
  | error b => cases h
  | ok found =>
    cases h
    rfl

/-- The record of an assignment that passes. -/
theorem assignment_passes {lhs rhs : Expr} {id : Int}
    (h : Passes (assignment lhs rhs id) p s () u) :
    lhs.isAssignable = true ∧ ∃ lhsText rhsText lhsType rhsType branch,
      lhs.text = .ok lhsText ∧ rhs.text = .ok rhsText ∧ (typeOf lhs p s).1 = .ok lhsType ∧
      (typeOf rhs p s).1 = .ok rhsType ∧ Fits lhsType rhsType ∧
      branchEntries (s.around.conditional, s.around.branch) = .ok branch ∧
      u = s.table.apply (.setRecord .assignments id (Value.mapOf
        ([("assign_id", .integer id), ("lhs_text", .string lhsText),
          ("rhs_text", .string rhsText), ("lhs_type", .string lhsType.name),
          ("rhs_type", .string rhsType.name)] ++ targetEntry lhs ++ branch))) := by
  obtain ⟨_, -, h⟩ := h.read (requirePresent_tame _ _)
  obtain ⟨_, -, h⟩ := h.read (requirePresent_tame _ _)
  split at h
  · obtain ⟨_, -, h⟩ := h.read (scriptText_tame _)
    exact absurd h Passes.not_fail
  rename_i hassignable
  obtain ⟨lhsType, hlhs, h⟩ := h.read (typeOf_tame _)
  obtain ⟨rhsType, hrhs, h⟩ := h.read (typeOf_tame _)
  obtain ⟨lhsText, hleft, h⟩ := h.read (scriptText_tame _)
  obtain ⟨_, hfits, h⟩ := h.read (assignableTypes_tame _ _ _)
  obtain ⟨rhsText, hright, h⟩ := h.read (scriptText_tame _)
  obtain ⟨around, haround, h⟩ := h.read .branchAround
  cases haround
  obtain ⟨branch, hbranch, h⟩ := h.read (.eval (.orBreak _))
  exact ⟨by simpa using hassignable, lhsText, rhsText, lhsType, rhsType, branch, orBreak_ok hleft,
    orBreak_ok hright, hlhs, hrhs, fits_of_ok hfits, orBreak_ok hbranch, h.write⟩

end DialogScript.Check
