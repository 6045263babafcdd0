import DialogScript.Proofs.Decimal.Finite
import DialogScript.Proofs.Running.Configured
import DialogScript.Proofs.Running.Once

/-!
The measures of a dialog: its width and height, and the width, the decimal places and the range of
an input field. A command that passes stores each of them as the double that its slot gives in the
table that the command leaves, and nothing for an empty slot. A measure is refused if it is at most
zero, below zero or below the least one. That leaves the measures in range, as long as they are
numbers: one that is no number is not refused by any comparison, and is stored.
-/

namespace DialogScript

namespace Check

variable {p : Place} {s u : Session} {e : Expr} {found : Option Float} {options : Options}
  {key : String}

/-! ## Doubles of slots -/

/-- The double of a slot in a session; nothing if the slot is empty. -/
inductive SlotDouble (p : Place) (s : Session) (e : Expr) : Option Float → Prop where
  | empty (h : e.isAbsent = true) : SlotDouble p s e none
  | filled {x : Float} (h : e.isAbsent = false) (hx : (double e p s).1 = .ok x) :
      SlotDouble p s e (some x)

theorem SlotDouble.eq_some {x : Float} (h : SlotDouble p s e found) (he : e.isAbsent = false)
    (hx : (double e p s).1 = .ok x) : found = some x := by
  cases h with
  | empty h =>
    rw [he] at h
    cases h
  | filled _ hy => rw [Except.ok.inj (hy.symm.trans hx)]

/-- What a slot gives depends on the bindings. -/
theorem SlotDouble.of_lookup (hsame : u.table.lookup = s.table.lookup)
    (h : SlotDouble p s e found) : SlotDouble p u e found := by
  cases h with
  | empty h => exact .empty h
  | filled h hx =>
    refine .filled h ?_
    have hscope : eval e.evalDouble p u =
        ((eval e.evalDouble p s).1, (eval e.evalDouble p u).2) := by
      simp only [eval, hsame]
    rw [double, bind_apply, hscope]
    rw [double, bind_apply] at hx
    revert hx
    cases eval e.evalDouble p s with
    | mk result v => cases result <;> exact id

/-- A size of the dialog is not at most zero. -/
theorem size_ok {what : String} (h : (size e what p s).1 = .ok found) :
    SlotDouble p s e found ∧ ∀ x ∈ found, ¬x ≤ 0.0 := by
  have hpass : Passes (size e what) p s found _ := .of_run (Prod.ext h rfl)
  unfold size at hpass
  split at hpass
  · rename_i he
    obtain ⟨rfl, -⟩ := hpass.pure
    exact ⟨.empty he, nofun⟩
  · rename_i he
    obtain ⟨x, hx, hpass⟩ := hpass.read (double_tame e)
    split at hpass
    · exact absurd hpass Passes.not_fail
    rename_i hpositive
    obtain ⟨_, -, hpass⟩ := hpass.read (.remark _)
    obtain ⟨rfl, -⟩ := hpass.pure
    exact ⟨.filled (Bool.eq_false_iff.2 he) hx, by rintro _ ⟨⟩; exact hpositive⟩

/-- An entry for a field that is read as a double of some sort. -/
theorem doubleEntry_ok {read : Expr → Check Value} {R : Float → Prop}
    (hread : ∀ v, (read e p s).1 = .ok v →
      ∃ x, (double e p s).1 = .ok x ∧ R x ∧ v = .double x)
    (h : (optionalEntry e key read p s).1 = .ok options) :
    ∃ found, SlotDouble p s e found ∧ (∀ x ∈ found, R x) ∧
      options = presentEntry key Value.double found := by
  unfold optionalEntry at h
  split at h
  · rename_i he
    cases h
    exact ⟨none, .empty he, nofun, rfl⟩
  · rename_i he
    obtain ⟨v, hv, h⟩ := bind_ok (Prod.ext h rfl)
    cases congrArg Prod.fst h
    obtain ⟨x, hx, hr, rfl⟩ := hread v hv
    exact ⟨some x, .filled (Bool.eq_false_iff.2 he) hx, by rintro _ ⟨⟩; exact hr, rfl⟩

theorem inputWidth_ok {q : InputParam} (h : (inputWidth q p s).1 = .ok options) :
    ∃ width, SlotDouble p s q.width width ∧ (∀ x ∈ width, ¬x ≤ 0.0) ∧
      options = presentEntry "width" Value.double width := by
  refine doubleEntry_ok (fun v hv => ?_) h
  have hpass : Passes _ p s v _ := .of_run (Prod.ext hv rfl)
  obtain ⟨x, hx, hpass⟩ := hpass.read (double_tame q.width)
  split at hpass
  · exact absurd hpass Passes.not_fail
  exact ⟨x, hx, ‹_›, hpass.pure.1⟩

theorem decimalPlaces_ok {q : InputParam} (h : (decimalPlaces q p s).1 = .ok options) :
    ∃ places, SlotDouble p s q.decimalPlaces places ∧ (∀ x ∈ places, ¬x < 0.0) ∧
      options = presentEntry "decimal_places" Value.double places := by
  refine doubleEntry_ok (fun v hv => ?_) h
  have hpass : Passes _ p s v _ := .of_run (Prod.ext hv rfl)
  obtain ⟨_, -, hpass⟩ := hpass.read (requireSubtype_tame _ _ _)
  obtain ⟨x, hx, hpass⟩ := hpass.read (double_tame q.decimalPlaces)
  split at hpass
  · exact absurd hpass Passes.not_fail
  exact ⟨x, hx, ‹_›, hpass.pure.1⟩

theorem inputBound_ok (h : (inputBound e p s).1 = .ok found) : SlotDouble p s e found := by
  unfold inputBound at h
  split at h
  · rename_i he
    cases h
    exact .empty he
  · rename_i he
    obtain ⟨x, hx, rfl⟩ := map_ok h
    exact .filled (Bool.eq_false_iff.2 he) hx

theorem inputRange_ok {q : InputParam} (h : (inputRange q p s).1 = .ok options) :
    ∃ least greatest, SlotDouble p s q.minValue least ∧ SlotDouble p s q.maxValue greatest ∧
      (∀ a ∈ least, ∀ b ∈ greatest, ¬b < a) ∧
      options = presentEntry "min_value" Value.double least ++
        presentEntry "max_value" Value.double greatest := by
  have hpass : Passes (inputRange q) p s options _ := .of_run (Prod.ext h rfl)
  unfold inputRange at hpass
  split at hpass
  · rename_i he
    rw [Bool.and_eq_true] at he
    obtain ⟨rfl, -⟩ := hpass.pure
    exact ⟨none, none, .empty he.1, .empty he.2, nofun, rfl⟩
  · obtain ⟨_, -, hpass⟩ := hpass.read (requireSubtype_tame _ _ _)
    obtain ⟨least, hleast, hpass⟩ := hpass.read (inputBound_tame _)
    obtain ⟨greatest, hgreatest, hpass⟩ := hpass.read (inputBound_tame _)
    refine ⟨least, greatest, inputBound_ok hleast, inputBound_ok hgreatest, ?_⟩
    split at hpass
    · split at hpass
      · exact absurd hpass Passes.not_fail
      rename_i a b hordered
      refine ⟨?_, hpass.pure.1⟩
      rintro _ ⟨⟩ _ ⟨⟩
      exact hordered
    all_goals exact ⟨by simp, hpass.pure.1⟩

/-! ## Measures in an option map -/

/-- Options under some keys only. -/
def HasKeys (ks : List String) (options : Options) : Prop := ∀ k ∈ Keyed.keys options, k ∈ ks

namespace HasKeys

variable {ks more : List String} {others : Options} {tables : HostConfig}

theorem nil : HasKeys ks [] := fun _ h => absurd h List.not_mem_nil

theorem append (h : HasKeys ks options) (h' : HasKeys more others) :
    HasKeys (ks ++ more) (options ++ others) := by
  intro k hk
  rw [Keyed.keys, List.map_append, List.mem_append] at hk
  exact List.mem_append.2 (hk.imp (h k) (h' k))

/-- Options without a key have nothing under it. -/
theorem lookup (h : HasKeys ks options) (hkey : key ∉ ks) : options.lookup key = none := by
  cases hv : options.lookup key with
  | none => rfl
  | some v => exact absurd (h key (List.mem_map_of_mem (Keyed.mem_of_lookup hv))) hkey

theorem optionalEntry (e : Expr) (key : String) (read : Expr → Check Value) :
    Ensures tables (HasKeys [key]) (Check.optionalEntry e key read) := by
  intro p s options hp ho
  rcases optionalEntry_ensures key (.anything (read e)) p s options hp ho with
    ⟨-, rfl⟩ | ⟨-, v, -, rfl⟩
  · exact nil
  · exact fun _ hk => hk

theorem defaultFor (q : InputParam) : Ensures tables (HasKeys ["default_for"]) (defaultFor q) :=
  .ite (fun _ => .pure nil) fun _ => .after fun _ => .pure fun _ hk => hk

theorem displayOptions (name : String) (d : Display) :
    Ensures tables (HasKeys ["tooltip", "image", "on_picture", "posX", "posY"])
      (displayOptions name d) := by
  have shown : Ensures tables (HasKeys ["tooltip", "image"]) (tooltipAndImage name d) := by
    refine .after fun _ => .ite (fun _ => .fail _) fun _ => ?_
    exact .bind (optionalEntry _ _ _) fun _ htooltip =>
      .bind (optionalEntry _ _ _) fun _ himage => .pure (htooltip.append himage)
  have placed : Ensures tables (HasKeys ["on_picture", "posX", "posY"]) (onPicture name d) := by
    refine .ite (fun _ => .pure nil) fun _ => .after fun _ => .ite (fun _ => .fail _) fun _ => ?_
    refine .after fun _ => .after fun _ => .ite (fun _ => .after fun _ => .fail _) fun _ => ?_
    exact .pure fun _ hk => hk
  exact .bind shown fun _ hshown => .bind placed fun _ hplaced => .pure (hshown.append hplaced)

end HasKeys

theorem lookup_presentEntry (other : String) :
    (presentEntry other Value.double found).lookup key =
      if key = other then found.map Value.double else none := by
  cases found with
  | none => simp [presentEntry]
  | some x =>
    rw [presentEntry, List.lookup_cons, List.lookup_nil]
    by_cases h : key = other
    · rw [if_pos h, beq_iff_eq.2 h]
      rfl
    · rw [if_neg h, beq_eq_false_iff_ne.2 h]

/-- The keys of the measures of an input field. -/
def measureKeys : List String := ["width", "decimal_places", "min_value", "max_value"]

/-- Only its own entries are under the keys of the measures. -/
theorem inputOptions_ok {q : InputParam} (h : (inputOptions q p s).1 = .ok options) :
    ∃ width places range, (inputWidth q p s).1 = .ok width ∧
      (decimalPlaces q p s).1 = .ok places ∧ (inputRange q p s).1 = .ok range ∧
      ∀ key ∈ measureKeys, options.lookup key =
        (width.lookup key).or ((places.lookup key).or (range.lookup key)) := by
  have hpass : Passes (inputOptions q) p s options _ := .of_run (Prod.ext h rfl)
  obtain ⟨targets, htargets, hpass⟩ := hpass.read (defaultFor_tame q)
  obtain ⟨width, hwidth, hpass⟩ := hpass.read (inputWidth_tame q)
  obtain ⟨places, hplaces, hpass⟩ := hpass.read (decimalPlaces_tame q)
  obtain ⟨model, hmodel, hpass⟩ := hpass.read (textEntry_tame _ _ _)
  obtain ⟨order, horder, hpass⟩ := hpass.read (displayOrder_tame _)
  obtain ⟨range, hrange, hpass⟩ := hpass.read (inputRange_tame q)
  obtain ⟨shown, hshown, hpass⟩ := hpass.read (displayOptions_tame _ _)
  refine ⟨width, places, range, hwidth, hplaces, hrange, fun key hkey => ?_⟩
  have apart : ∀ key ∈ measureKeys, key ∉ ["required", "no_update"] ∧ key ∉ ["default_for"] ∧
      key ∉ ["model"] ∧ key ∉ ["display_order"] ∧
      key ∉ ["tooltip", "image", "on_picture", "posX", "posY"] := by decide
  obtain ⟨hflag, htarget, hmodelKey, horderKey, hshownKey⟩ := apart key hkey
  have flags : HasKeys ["required", "no_update"]
      [("required", .bool q.required), ("no_update", .bool q.noUpdate)] := fun _ hk => hk
  rw [hpass.pure.1]
  simp only [List.lookup_append, flags.lookup hflag,
    ((HasKeys.defaultFor q).of_ok htargets).lookup htarget,
    ((HasKeys.optionalEntry _ _ _).of_ok hmodel).lookup hmodelKey,
    ((HasKeys.optionalEntry _ _ _).of_ok horder).lookup horderKey,
    ((HasKeys.displayOptions _ _).of_ok hshown).lookup hshownKey, Option.none_or, Option.or_none,
    Option.or_assoc]

/-! ## Stored measures -/

/-- A map has the double of a slot under a key, and nothing for an empty slot. -/
def Stored (p : Place) (s : Session) (m : Value) (key : String) (e : Expr)
    (found : Option Float) : Prop :=
  SlotDouble p s e found ∧ m.field? key = found.map Value.double

/-- A configuration has the sizes that its slots give. A size that is a number is above zero, and a
height stands with a width only. -/
structure StoredSizes (p : Place) (s : Session) (c : DialogConfig) (m : Value)
    (width height : Option Float) : Prop where
  storesWidth : Stored p s m "width" c.width width
  storesHeight : Stored p s m "height" c.height height
  widthPositive : ∀ x ∈ width, x.isNaN = false → 0.0 < x
  heightPositive : ∀ x ∈ height, x.isNaN = false → 0.0 < x
  together : height.isSome = true → width.isSome = true

/-- The options of an input field have the measures that its slots give. Where they are numbers, the
width is above zero, the decimal places are not below zero, and the least value is at most the
greatest one. -/
structure StoredMeasures (p : Place) (s : Session) (q : InputParam) (m : Value)
    (width places least greatest : Option Float) : Prop where
  storesWidth : Stored p s m "width" q.width width
  storesPlaces : Stored p s m "decimal_places" q.decimalPlaces places
  storesLeast : Stored p s m "min_value" q.minValue least
  storesGreatest : Stored p s m "max_value" q.maxValue greatest
  widthPositive : ∀ x ∈ width, x.isNaN = false → 0.0 < x
  placesNotNegative : ∀ x ∈ places, x.isNaN = false → 0.0 ≤ x
  ordered : ∀ a ∈ least, ∀ b ∈ greatest, a.isNaN = false → b.isNaN = false → a ≤ b

theorem positive_of_not_le {x : Float} (h : ¬x ≤ 0.0) (hx : x.isNaN = false) : 0.0 < x :=
  Decimal.lt_of_not_le hx rfl h

/-- A configuration that passes has its sizes, also in a session with more bindings written. -/
theorem configuration_stored {c : DialogConfig} {t : SymbolTable}
    (hsame : u.table.lookup = s.table.lookup) (h : Passes (configuration c) p s () t) :
    ∃ m width height, t = s.table.apply (.setSingleton .configElem m) ∧
      StoredSizes p u c m width height := by
  obtain ⟨-, width, height, location, hwidth, hheight, htogether, rfl⟩ := configuration_passes h
  obtain ⟨hw, hwpos⟩ := size_ok hwidth
  obtain ⟨hh, hhpos⟩ := size_ok hheight
  -- Neither the flags nor the place are under the keys of the sizes.
  have flags : HasKeys ["no_tables", "no_gui", "auto_commit", "auto_close",
      "show_gui_for_existing", "no_auto_update", "continue_on_cancel", "has_screen_location"]
      (configFlags c) := fun _ hk => hk
  have place : HasKeys ["location_option"]
      (presentEntry "location_option" Value.string location) := by
    cases location with
    | none => exact .nil
    | some _ => exact fun _ hk => hk
  have field (key : String) (hkey : key ∈ ["width", "height"]) : (Value.mapOf (configFlags c
      ++ presentEntry "location_option" Value.string location
      ++ presentEntry "width" Value.double width
      ++ presentEntry "height" Value.double height)).field? key =
      (if key = "width" then width.map Value.double else none).or
        (if key = "height" then height.map Value.double else none) := by
    have apart : ∀ key ∈ ["width", "height"], key ∉ ["no_tables", "no_gui", "auto_commit",
        "auto_close", "show_gui_for_existing", "no_auto_update", "continue_on_cancel",
        "has_screen_location"] ∧ key ∉ ["location_option"] := by decide
    rw [Value.field?_mapOf, List.lookup_append, List.lookup_append, List.lookup_append,
      flags.lookup (apart key hkey).1, place.lookup (apart key hkey).2, lookup_presentEntry,
      lookup_presentEntry, Option.none_or, Option.none_or]
  refine ⟨_, width, height, rfl, ⟨hw.of_lookup hsame, ?_⟩, ⟨hh.of_lookup hsame, ?_⟩,
    fun x hx => positive_of_not_le (hwpos x hx), fun x hx => positive_of_not_le (hhpos x hx),
    htogether⟩
  · simpa using field "width" (by decide)
  · simpa using field "height" (by decide)

theorem inputOptions_stored {q : InputParam} (hsame : u.table.lookup = s.table.lookup)
    (h : (inputOptions q p s).1 = .ok options) : ∃ width places least greatest,
      StoredMeasures p u q (Value.mapOf options) width places least greatest := by
  obtain ⟨_, _, _, hwidth, hplaces, hrange, hlookup⟩ := inputOptions_ok h
  obtain ⟨width, hw, hwpos, rfl⟩ := inputWidth_ok hwidth
  obtain ⟨places, hp, hppos, rfl⟩ := decimalPlaces_ok hplaces
  obtain ⟨least, greatest, hl, hg, hordered, rfl⟩ := inputRange_ok hrange
  simp only [List.lookup_append, lookup_presentEntry] at hlookup
  have field (key : String) (hkey : key ∈ measureKeys) :=
    (Value.field?_mapOf options key).trans (hlookup key hkey)
  refine ⟨width, places, least, greatest, ⟨hw.of_lookup hsame, ?_⟩, ⟨hp.of_lookup hsame, ?_⟩,
    ⟨hl.of_lookup hsame, ?_⟩, ⟨hg.of_lookup hsame, ?_⟩,
    fun x hx => positive_of_not_le (hwpos x hx),
    fun x hx hnumber => Decimal.le_of_not_lt hnumber rfl (hppos x hx),
    fun a ha b hb hna hnb => Decimal.le_of_not_lt hnb hna (hordered a ha b hb)⟩
  · simpa using field "width" (by decide)
  · simpa using field "decimal_places" (by decide)
  · simpa using field "min_value" (by decide)
  · simpa using field "max_value" (by decide)

end Check

theorem lookup_of_contents {t u : SymbolTable} (h : t.contents = u.contents) :
    t.lookup = u.lookup := by
  show t.contents.lookup = u.contents.lookup
  rw [h]

theorem lookup_of_bindings {t u : SymbolTable} (h : t.bindings = u.bindings) :
    t.lookup = u.lookup := by
  funext name
  rw [SymbolTable.lookup, SymbolTable.lookup, SymbolTable.binding?, SymbolTable.binding?, h]

/-- What binds an input field leaves the option maps. -/
theorem optionsOf_bindInput {p : Place} {s : Session} {q : InputParam} {t : SymbolTable}
    {kind : CommandKind} {name : String} (h : Check.Passes (Check.bindInput q) p s () t) :
    t.optionsOf kind name = s.table.optionsOf kind name := by
  obtain ⟨initial, -, h⟩ := h.read (Check.inputValue_tame q)
  rcases Check.bindParameter_passes h with ⟨-, rfl⟩ | ⟨v, -, -, rfl⟩ <;>
    exact optionsOf_apply s.table _ kind name

/-- A command that configures the dialog and passes stores the sizes that it gives, and an input
field that passes stores its measures, if it gives any option. They are the doubles that their slots
give in the table that the command leaves, and they are in range as long as they are numbers. -/
theorem runAction_measures (setting : Setting) (status : Status) (s : Session) :
    (∀ c : DialogConfig, (runAction setting status (.configure c) s).ending = .ok true →
      ∃ m width height,
        (runAction setting status (.configure c) s).session.table.singleton .configElem = some m ∧
        Check.StoredSizes ⟨.configElem, setting.host⟩
          (runAction setting status (.configure c) s).session c m width height) ∧
    ∀ q : InputParam, (runAction setting status (.userInput q) s).ending = .ok true →
      (q.hasOptions = false ∧
        (runAction setting status (.userInput q) s).session.table.optionsOf .userInputParam q.name =
          s.table.optionsOf .userInputParam q.name) ∨
      q.hasOptions = true ∧ ∃ m width places least greatest,
        (runAction setting status (.userInput q) s).session.table.optionsOf .userInputParam q.name =
          some m ∧
        Check.StoredMeasures ⟨.userInputParam, setting.host⟩
          (runAction setting status (.userInput q) s).session q m width places least greatest := by
  refine ⟨fun c h => ?_, fun q h => ?_⟩
  · obtain ⟨kind, u, hk, hpasses, hu⟩ := runAction_passed h
    cases hk
    have hleft : (runAction setting status (.configure c) s).session.table.lookup =
        s.table.lookup := by
      obtain ⟨-, _, _, _, -, -, -, hset⟩ := Check.configuration_passes hpasses
      rw [lookup_of_contents hu, hset]
      exact lookup_of_bindings (SymbolTable.bindings_apply s.table rfl).1
    obtain ⟨m, width, height, rfl, stored⟩ := Check.configuration_stored hleft hpasses
    have hset : (s.table.apply (.setSingleton .configElem m)).singleton .configElem = some m :=
      singleton_apply s.table (.setSingleton .configElem m) .configElem
    exact ⟨m, width, height, (congrArg (fun t => t.singleton .configElem) hu).trans hset, stored⟩
  · obtain ⟨kind, u, hk, hpasses, hu⟩ := runAction_passed h
    cases hk
    have hoptions : (runAction setting status (.userInput q) s).session.table.optionsOf
        .userInputParam q.name = u.optionsOf .userInputParam q.name :=
      congrArg (fun t => t.optionsOf .userInputParam q.name) hu
    have hleft := lookup_of_contents hu
    obtain ⟨-, t, hbind, hstored⟩ := Check.inputParam_stored hpasses
    rcases hstored with ⟨hgiven, rfl⟩ | ⟨hgiven, options, hfound, rfl⟩
    · exact .inl ⟨hgiven, hoptions.trans (optionsOf_bindInput hbind)⟩
    · rw [lookup_of_bindings (SymbolTable.bindings_apply t rfl).1] at hleft
      obtain ⟨width, places, least, greatest, stored⟩ := Check.inputOptions_stored hleft hfound
      refine .inr ⟨hgiven, _, width, places, least, greatest, ?_, stored⟩
      exact hoptions.trans ((optionsOf_apply t _ _ _).trans (if_pos rfl))

/-- A double in a script. -/
def doubleSlot (x : Float) : Expr := .literal none (.double x)

/-- A dialog with a width as a fraction and a height. -/
def sizedDialog : DialogConfig := { width := doubleSlot 0.5, height := doubleSlot 300.0 }

/-- An input field that is as wide as its default. -/
def rangedField : InputParam where
  name := "N"
  subtype := .double
  default := doubleSlot 12.5
  width := .named none "N"
  decimalPlaces := doubleSlot 0.0
  minValue := .unary none .minus (doubleSlot 1.5)
  maxValue := .binary none (doubleSlot 2.0) .star (.named none "N")

theorem runAction_measures_ranged :
    ((runAction {} {} (.configure sizedDialog) {}).ending = .ok true ∧
      ∃ m, (runAction {} {} (.configure sizedDialog) {}).session.table.singleton .configElem =
        some m ∧ m.field? "height" = some (.double 300.0) ∧ (0.0 : Float) < 300.0) ∧
    (runAction {} {} (.userInput rangedField) {}).ending = .ok true ∧
      ∃ m, (runAction {} {} (.userInput rangedField) {}).session.table.optionsOf
        .userInputParam "N" = some m ∧ m.field? "min_value" = some (.double (-1.5)) ∧
        m.field? "max_value" = some (.double (2.0 * 12.5)) ∧ (-1.5 : Float) ≤ 2.0 * 12.5 := by
  have hdialog : (runAction {} {} (.configure sizedDialog) {}).ending = .ok true := rfl
  have hfield : (runAction {} {} (.userInput rangedField) {}).ending = .ok true := rfl
  obtain ⟨dialogs, fields⟩ := runAction_measures {} {} {}
  refine ⟨⟨hdialog, ?_⟩, hfield, ?_⟩
  · obtain ⟨m, width, height, hm, stored⟩ := dialogs sizedDialog hdialog
    obtain rfl : height = some 300.0 := stored.storesHeight.1.eq_some rfl rfl
    exact ⟨m, hm, stored.storesHeight.2, stored.heightPositive _ rfl rfl⟩
  · rcases fields rangedField hfield with ⟨hnone, -⟩ | ⟨-, m, _, _, least, greatest, hm, stored⟩
    · cases hnone
    · obtain rfl : least = some (-1.5) := stored.storesLeast.1.eq_some rfl rfl
      obtain rfl : greatest = some (2.0 * 12.5) := stored.storesGreatest.1.eq_some rfl rfl
      exact ⟨m, hm, stored.storesLeast.2, stored.storesGreatest.2,
        stored.ordered _ rfl _ rfl rfl rfl⟩

/-! ## Measures that are no numbers -/

/-- The difference of two infinite doubles, which is no number. -/
def noNumber : Expr :=
  .binary none (doubleSlot Numeral.infinity) .minus (doubleSlot Numeral.infinity)

/-- An input field whose measures are no numbers. -/
def unmeasuredField : InputParam where
  name := "N"
  subtype := .double
  width := noNumber
  decimalPlaces := noNumber
  minValue := doubleSlot 1.0
  maxValue := noNumber

/-- A dialog may be given a width that is not above zero, and an input field measures out of range:
no comparison refuses what is no number. -/
theorem runAction_measures_noNumber :
    ((runAction {} {} (.configure { width := noNumber }) {}).ending = .ok true ∧
      ∃ m x, (runAction {} {} (.configure { width := noNumber }) {}).session.table.singleton
        .configElem = some m ∧ m.field? "width" = some (.double x) ∧ ¬0.0 < x) ∧
    (runAction {} {} (.userInput unmeasuredField) {}).ending = .ok true ∧
      ∃ m w p a b, (runAction {} {} (.userInput unmeasuredField) {}).session.table.optionsOf
        .userInputParam "N" = some m ∧
        m.field? "width" = some (.double w) ∧ ¬0.0 < w ∧
        m.field? "decimal_places" = some (.double p) ∧ ¬0.0 ≤ p ∧
        m.field? "min_value" = some (.double a) ∧ m.field? "max_value" = some (.double b) ∧
        ¬a ≤ b :=
  ⟨⟨rfl, _, _, rfl, rfl, by decide⟩, rfl, _, _, _, _, _, rfl, rfl, by decide, rfl, by decide, rfl,
    rfl, by decide⟩

end DialogScript
