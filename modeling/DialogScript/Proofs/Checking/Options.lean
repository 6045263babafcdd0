import DialogScript.Proofs.Checking.Action

/-!
The option maps that actions store. Each entry keeps the rule of its key, and some entries stand
together: an image with a tooltip, and the three of a position. Each part of a map is sound by
itself, and sound parts are sound together, so a map is sound however many of its fields are given.
-/

namespace DialogScript

namespace Value

/-- The value of a field of a value that is a map. -/
def field? (v : Value) (key : String) : Option Value :=
  match v with
  | .map fields => (fields.lookup key).join
  | _ => none

/-- A text that is not empty. -/
def IsText (v : Value) : Prop := ∃ text, v = .string text ∧ text ≠ ""

/-- An integer that is not below zero. -/
def IsNatural (v : Value) : Prop := ∃ n : Int, v = .integer n ∧ 0 ≤ n

/-- An array of texts, all of some sort. -/
def Lists (P : String → Prop) (v : Value) : Prop := ∃ texts, v = .strings texts ∧ ∀ t ∈ texts, P t

theorem field?_mapOf (entries : List (String × Value)) (key : String) :
    (mapOf entries).field? key = entries.lookup key := by
  show ((entries.map fun e => (e.1, some e.2)).lookup key).join = _
  rw [Keyed.lookup_map_snd]
  cases entries.lookup key <;> rfl

end Value

/-- The types of the names that a kind of command stores options for. -/
def CommandKind.accepts (kind : CommandKind) (type : ValueType) : Bool :=
  match kind with
  | .showParam | .userInputParam => type.isScalar
  | .checkboxParam | .radioButtonParam => type = .integer || type = .bool
  | .userSelect | .userSelectOptional => type = .reference
  | .userSelectMultiple | .userSelectMultipleOptional => type = .array
  | _ => false

/-- Whether a kind of selection takes several references. Other kinds do not select. -/
def CommandKind.several? : CommandKind → Option Bool
  | .userSelect | .userSelectOptional => some false
  | .userSelectMultiple | .userSelectMultipleOptional => some true
  | _ => none

namespace Check

/-- What may stand under a key of an option map that a kind of command stores for a name of a
type. -/
def OptionRule (kind : CommandKind) (type : ValueType) (key : String) (v : Value) : Prop :=
  match key with
  | "tooltip" | "image" | "tag" | "model" => v.IsText
  | "on_picture" => v = .bool true
  | "posX" | "posY" | "display_order" => v.IsNatural
  | "options" => v.Lists fun label => label ≠ ""
  | "default_for" => v.Lists fun name => isIdentifier name = true
  | "min_value" | "max_value" => kind = .userInputParam ∧ (type = .integer ∨ type = .double)
  | "decimal_places" => kind = .userInputParam ∧ type = .double
  | _ => True

/-- A map lists types to select, and the host's code of each. A selection of several lists only
types that the host knows; any other may list types that share the code of unknown ones. -/
def SelectsTypes (host : HostConfig) (several : Bool) (m : Value) : Prop :=
  ∃ types : List String, types ≠ [] ∧ m.field? "types" = some (.strings types) ∧
    m.field? "allowed_types" = some (.array (types.map fun t => .integer (host.referenceCode t))) ∧
    (∀ t ∈ types, host.knowsReference t = false → host.referenceCode t = host.unknownReference) ∧
    (several = true → ∀ t ∈ types, host.knowsReference t = true)

/-- An option map that a kind of command may store for a name of a type. -/
structure WellFormed (host : HostConfig) (kind : CommandKind) (type : ValueType) (m : Value) :
    Prop where
  entries : ∀ key v, m.field? key = some v → OptionRule kind type key v
  image : m.field? "image" ≠ none → m.field? "tooltip" ≠ none
  posX : m.field? "on_picture" ≠ none ↔ m.field? "posX" ≠ none
  posY : m.field? "on_picture" ≠ none ↔ m.field? "posY" ≠ none
  selected : ∀ several, kind.several? = some several → SelectsTypes host several m

/-- Options that keep the rules of their keys, with entries beside them that they need. -/
structure Sound (kind : CommandKind) (type : ValueType) (options : Options) : Prop where
  entries : ∀ e ∈ options, OptionRule kind type e.1 e.2
  image : "image" ∈ Keyed.keys options → "tooltip" ∈ Keyed.keys options
  posX : "on_picture" ∈ Keyed.keys options ↔ "posX" ∈ Keyed.keys options
  posY : "on_picture" ∈ Keyed.keys options ↔ "posY" ∈ Keyed.keys options

namespace Sound

variable {kind : CommandKind} {type : ValueType} {options more : Options}

theorem nil : Sound kind type [] := by
  constructor <;> simp [Keyed.keys]

theorem append (h : Sound kind type options) (h' : Sound kind type more) :
    Sound kind type (options ++ more) := by
  have hkeys : Keyed.keys (options ++ more) = Keyed.keys options ++ Keyed.keys more :=
    List.map_append
  refine ⟨fun e he => ?_, ?_, ?_, ?_⟩
  · exact (List.mem_append.1 he).elim (h.entries e) (h'.entries e)
  · simp only [hkeys, List.mem_append]
    exact Or.imp h.image h'.image
  · simp only [hkeys, List.mem_append]
    exact or_congr h.posX h'.posX
  · simp only [hkeys, List.mem_append]
    exact or_congr h.posY h'.posY

/-- An entry that needs no other. -/
theorem one {key : String} {v : Value} (hrule : OptionRule kind type key v)
    (hkey : key ∉ ["image", "on_picture", "posX", "posY"]) : Sound kind type [(key, v)] := by
  simp only [List.mem_cons, List.not_mem_nil, or_false, not_or] at hkey
  obtain ⟨himage, hon, hx, hy⟩ := hkey
  constructor <;> simp [Keyed.keys, hrule, Ne.symm himage, Ne.symm hon, Ne.symm hx, Ne.symm hy]

theorem mem_keys (options : Options) (key : String) :
    (Value.mapOf options).field? key ≠ none ↔ key ∈ Keyed.keys options := by
  rw [Value.field?_mapOf, ← Option.isSome_iff_ne_none, Keyed.lookup_isSome_iff]

theorem wellFormed (h : Sound kind type options) {host : HostConfig}
    (hselected : ∀ several, kind.several? = some several →
      SelectsTypes host several (Value.mapOf options)) :
    WellFormed host kind type (Value.mapOf options) where
  entries key v hv := h.entries (key, v) (Keyed.mem_of_lookup (Value.field?_mapOf .. ▸ hv))
  image := by simpa only [mem_keys] using h.image
  posX := by simpa only [mem_keys] using h.posX
  posY := by simpa only [mem_keys] using h.posY
  selected := hselected

end Sound

/-! ## What a check gives -/

/-- Where the check passes with some host tables, its result is of some sort, whatever it finds. -/
def Ensures {α : Type} (tables : HostConfig) (Q : α → Prop) (m : Check α) : Prop :=
  ∀ p s a, p.host = tables → (m p s).1 = .ok a → Q a

variable {α β : Type} {tables : HostConfig} {P : α → Prop} {Q : β → Prop}
  {kind : CommandKind} {type : ValueType} {options : Options} {e : Expr} {key : String}

namespace Ensures

theorem of_ok {m : Check α} {p : Place} {s : Session} {x : α} (h : Ensures p.host P m)
    (hx : (m p s).1 = .ok x) : P x := h p s x rfl hx

theorem anything (m : Check α) : Ensures tables (fun _ => True) m := fun _ _ _ _ _ => trivial

theorem pure {x : α} (h : P x) : Ensures tables P (Pure.pure x : Check α) := by
  intro p s x' hp hx
  cases hx
  exact h

theorem failAt (problem : Problem) (span : Option Span) :
    Ensures tables P (Check.failAt problem span : Check α) := by
  intro p s x hp hx
  cases hx

theorem fail (problem : Problem) : Ensures tables P (Check.fail problem : Check α) :=
  failAt problem none

theorem host : Ensures tables (fun found => found = tables) Check.host := by
  intro p s found hp hfound
  cases hfound
  exact hp

theorem bind {m : Check α} {f : α → Check β} (hm : Ensures tables P m)
    (hf : ∀ x, P x → Ensures tables Q (f x)) : Ensures tables Q (m >>= f) := by
  intro p s y hp hy
  rw [bind_apply] at hy
  cases h : m p s with
  | mk result u =>
    rw [h] at hy
    cases result with
    | ok x => exact hf x (hm p s x hp (by rw [h])) p u y hp hy
    | error failure => cases hy

/-- A check after one whose result does not matter. -/
theorem after {m : Check α} {f : α → Check β} (hf : ∀ x, Ensures tables Q (f x)) :
    Ensures tables Q (m >>= f) :=
  bind (anything m) fun x _ => hf x

theorem map {m : Check α} {f : α → β} (hm : Ensures tables P m) (h : ∀ x, P x → Q (f x)) :
    Ensures tables Q (f <$> m) :=
  hm.bind fun x hx => pure (h x hx)

theorem ite {c : Prop} [Decidable c] {m n : Check α} (hm : c → Ensures tables P m)
    (hn : ¬c → Ensures tables P n) : Ensures tables P (if c then m else n) := by
  split
  · exact hm ‹_›
  · exact hn ‹_›

end Ensures

/-! ## Parts of an option map -/

theorem requireSubtype_ensures (name : String) (subtype : ParamSubtype)
    (allowed : List ParamSubtype) :
    Ensures tables (fun _ => subtype ∈ allowed) (requireSubtype name subtype allowed) :=
  .after fun _ => .ite (fun h => .pure h) fun _ => .fail _

theorem nonEmptyText_ensures (e : Expr) (what : String) :
    Ensures tables (fun text => text ≠ "") (nonEmptyText e what) :=
  .after fun _ => .ite (fun _ => .after fun _ => .fail _) fun h => .pure h

theorem textOf_ensures (e : Expr) (what : String) :
    Ensures tables Value.IsText (Value.string <$> nonEmptyText e what) :=
  .map (nonEmptyText_ensures e what) fun text h => ⟨text, rfl, h⟩

/-- A field that may be left out has an entry where it is given. -/
theorem optionalEntry_ensures {R : Value → Prop} {read : Expr → Check Value} (key : String)
    (h : Ensures tables R (read e)) :
    Ensures tables (fun options => (e.isAbsent = true ∧ options = []) ∨
      e.isAbsent = false ∧ ∃ v, R v ∧ options = [(key, v)]) (optionalEntry e key read) :=
  .ite (fun he => .pure (.inl ⟨he, rfl⟩)) fun he =>
    h.bind fun v hv => .pure (.inr ⟨Bool.eq_false_iff.2 he, v, hv, rfl⟩)

theorem optionalEntry_sound {read : Expr → Check Value}
    (h : Ensures tables (OptionRule kind type key) (read e))
    (hkey : key ∉ ["image", "on_picture", "posX", "posY"]) :
    Ensures tables (Sound kind type) (optionalEntry e key read) := by
  intro p s options hp ho
  rcases optionalEntry_ensures key h p s options hp ho with ⟨-, rfl⟩ | ⟨-, v, hv, rfl⟩
  · exact .nil
  · exact .one hv hkey

theorem displayOrder_sound (e : Expr) : Ensures tables (Sound kind type) (displayOrder e) := by
  refine optionalEntry_sound (.after fun n => .ite (fun _ => .after fun _ => .fail _) fun h => ?_)
    (by decide)
  exact .pure ⟨n, rfl, Int.not_lt.1 h⟩

/-- A text under a key whose entries are texts. -/
theorem textEntry_sound (e : Expr) (what : String) (hkey : key ∈ ["tooltip", "tag", "model"]) :
    Ensures tables (Sound kind type)
      (optionalEntry e key fun e => Value.string <$> nonEmptyText e what) := by
  simp only [List.mem_cons, List.not_mem_nil, or_false] at hkey
  rcases hkey with rfl | rfl | rfl <;> exact optionalEntry_sound (textOf_ensures e _) (by decide)

theorem tag_sound (name : String) (e : Expr) : Ensures tables (Sound kind type) (tag name e) :=
  textEntry_sound e _ (by decide)

theorem tooltipAndImage_sound (name : String) (d : Display) :
    Ensures tables (Sound kind type) (tooltipAndImage name d) := by
  refine .after fun kind => .ite (fun _ => .fail _) fun hneeds => ?_
  refine .bind (optionalEntry_ensures _ (textOf_ensures _ _)) fun tooltip htooltip => ?_
  refine .bind (optionalEntry_ensures _ (textOf_ensures _ _)) fun image himage => .pure ?_
  -- An image without a tooltip has been refused.
  rcases htooltip with ⟨hnone, rfl⟩ | ⟨-, v, hv, rfl⟩ <;>
    rcases himage with ⟨-, rfl⟩ | ⟨hgiven, w, hw, rfl⟩
  · exact .nil
  · exact absurd (by rw [hgiven, hnone]; rfl) hneeds
  · exact .one hv (by decide)
  · constructor <;> simp [Keyed.keys, OptionRule, hv, hw]

theorem onPicture_sound (name : String) (d : Display) :
    Ensures tables (Sound kind type) (onPicture name d) := by
  refine .ite (fun _ => .pure .nil) fun _ => .after fun kind => .ite (fun _ => .fail _) fun _ => ?_
  refine .after fun x => .after fun y => .ite (fun _ => .after fun _ => .fail _) fun h => .pure ?_
  rw [not_or, Int.not_lt, Int.not_lt] at h
  have hx : (Value.integer x).IsNatural := ⟨x, rfl, h.1⟩
  have hy : (Value.integer y).IsNatural := ⟨y, rfl, h.2⟩
  constructor <;> simp [Keyed.keys, OptionRule, hx, hy]

theorem displayOptions_sound (name : String) (d : Display) :
    Ensures tables (Sound kind type) (displayOptions name d) :=
  .bind (tooltipAndImage_sound name d) fun _ hshown =>
    .bind (onPicture_sound name d) fun _ hplaced => .pure (hshown.append hplaced)

theorem required_sound (required : Bool) : Sound kind type [("required", .bool required)] :=
  .one trivial (by decide)

/-! ## Parameters -/

theorem defaultTargets_ensures (name : String) (targets : List String) :
    Ensures tables (fun _ => ∀ target ∈ targets, isIdentifier target = true)
      (defaultTargets name targets) := by
  induction targets with
  | nil => exact .pure fun _ h => absurd h List.not_mem_nil
  | cons target rest ih =>
    refine .after fun _ => .ite (fun _ => .fail _) fun hname => .after fun _ => .after fun _ => ?_
    exact fun p s x hp hx => List.forall_mem_cons.2 ⟨by simpa using hname, ih p s x hp hx⟩

theorem defaultFor_sound (q : InputParam) : Ensures tables (Sound kind type) (defaultFor q) :=
  .ite (fun _ => .pure .nil) fun _ => .bind (defaultTargets_ensures _ _) fun _ h =>
    .pure (.one ⟨q.defaultFor, rfl, h⟩ (by decide))

theorem inputFlags_sound (q : InputParam) :
    Sound kind type [("required", .bool q.required), ("no_update", .bool q.noUpdate)] :=
  (required_sound q.required).append (.one trivial (by decide))

theorem inputWidth_sound (q : InputParam) : Ensures tables (Sound kind type) (inputWidth q) :=
  optionalEntry_sound (fun _ _ _ _ _ => trivial) (by decide)

theorem decimalPlaces_sound (q : InputParam) :
    Ensures tables (Sound .userInputParam q.subtype.valueType) (decimalPlaces q) := by
  refine optionalEntry_sound (.bind (requireSubtype_ensures _ _ _) fun _ hsubtype => ?_) (by decide)
  refine .after fun x => .ite (fun _ => .fail _) fun _ => .pure ⟨rfl, ?_⟩
  rw [List.mem_singleton.1 hsubtype]
  rfl

theorem inputRange_sound (q : InputParam) :
    Ensures tables (Sound .userInputParam q.subtype.valueType) (inputRange q) := by
  refine .ite (fun _ => .pure .nil) fun _ => ?_
  refine .bind (requireSubtype_ensures _ _ _) fun _ hsubtype => ?_
  have htype : q.subtype.valueType = .integer ∨ q.subtype.valueType = .double := by
    revert hsubtype
    cases q.subtype <;> decide
  have least (x : Float) : Sound _ q.subtype.valueType [("min_value", .double x)] :=
    .one ⟨rfl, htype⟩ (by decide)
  have greatest (x : Float) : Sound _ q.subtype.valueType [("max_value", .double x)] :=
    .one ⟨rfl, htype⟩ (by decide)
  refine .after fun found => .after fun found' => ?_
  cases found <;> cases found'
  case none.none => exact .pure .nil
  case none.some x => exact .pure (greatest x)
  case some.none x => exact .pure (least x)
  case some.some x y => exact .ite (fun _ => .fail _) fun _ => .pure ((least x).append (greatest y))

theorem optionLabels_ensures (name : String) (place : Nat) (options : List Expr) :
    Ensures tables (fun labels => ∀ label ∈ labels, label ≠ "")
      (optionLabels name place options) := by
  induction options generalizing place with
  | nil => exact .pure fun _ h => absurd h List.not_mem_nil
  | cons e rest ih =>
    refine .bind (nonEmptyText_ensures _ _) fun label hlabel => ?_
    exact .bind (ih (place + 1)) fun others hothers =>
      .pure (List.forall_mem_cons.2 ⟨hlabel, hothers⟩)

theorem radioOptions_sound (q : RadioParam) : Ensures tables (Sound kind type) (radioOptions q) :=
  .ite (fun _ => .pure .nil) fun _ => .bind (optionLabels_ensures _ _ _) fun labels h =>
    .pure (.one ⟨labels, rfl, h⟩ (by decide))

/-! ## Selections -/

theorem typeNames_ensures (strict : Bool) (place : Nat) (types : List Expr) :
    Ensures tables (fun names => names.length = types.length ∧
      (strict = true → ∀ name ∈ names, tables.knowsReference name = true))
      (typeNames strict place types) := by
  induction types generalizing place with
  | nil => exact .pure ⟨rfl, fun _ _ h => absurd h List.not_mem_nil⟩
  | cons e rest ih =>
    refine .after fun found => .ite (fun _ => .failAt _ _) fun _ => .after fun name => ?_
    refine .bind .host fun known hknown => .after fun kind => .ite (fun _ => .failAt _ _) ?_
    subst hknown
    refine fun hname => .bind (ih (place + 1)) fun others ⟨hlength, hothers⟩ => .pure ⟨?_, ?_⟩
    · exact congrArg Nat.succ hlength
    · intro hstrict
      rw [hstrict, Bool.true_and, Bool.not_eq_true, Bool.not_eq_false'] at hname
      exact List.forall_mem_cons.2 ⟨hname, hothers hstrict⟩

/-- The keys of a selection of several references whose entries may be anything. -/
def selectionKeys : List String :=
  ["include_multi_cad", "filter_mdl", "filter_feat", "filter_geom", "filter_ref",
    "filter_identifier"]

theorem selectionKeys_rule (hkey : key ∈ selectionKeys) (v : Value) :
    OptionRule kind type key v := by
  simp only [selectionKeys, List.mem_cons, List.not_mem_nil, or_false] at hkey
  rcases hkey with rfl | rfl | rfl | rfl | rfl | rfl <;> exact trivial

theorem selectionKeys_apart : ∀ key ∈ selectionKeys,
    key ∉ ["image", "on_picture", "posX", "posY"] := by decide

theorem flagEntry_sound (on : Bool) (key : String)
    (hkey : key ∉ ["image", "on_picture", "posX", "posY"])
    (hrule : OptionRule kind type key (.bool true)) :
    Sound kind type (flagEntry on key) := by
  cases on with
  | true => exact .one hrule hkey
  | false => exact .nil

/-- The options of a selection begin with its types and their codes. -/
theorem selectionOptions_ensures (kind : CommandKind) (type : ValueType) (q : Selection)
    (name : String) (required : Bool) (types : List String) :
    Ensures tables (fun options => Sound kind type options ∧ ∃ others, options =
      ("types", .strings types) ::
        ("allowed_types", .array (types.map fun t => .integer (tables.referenceCode t))) :: others)
      (selectionOptions q name required types) := by
  refine .bind .host fun known hknown => ?_
  subst hknown
  have sound {m : Check Options} (h : Ensures known (Sound kind type) m) := h
  refine .bind (sound (displayOrder_sound _)) fun order horder => ?_
  refine .bind (sound (displayOptions_sound _ _)) fun shown hshown => ?_
  refine .bind (sound (tag_sound _ _)) fun tag htag => .pure ⟨?_, _, rfl⟩
  have head : Sound kind type [("types", .strings types),
      ("allowed_types", .array (types.map fun t => .integer (known.referenceCode t))),
      ("required", .bool required)] := by
    constructor <;> simp [Keyed.keys, OptionRule]
  have reselect : Sound kind type (flagEntry q.allowReselect "allow_reselect") :=
    flagEntry_sound _ _ (by decide) trivial
  have box : Sound kind type (flagEntry q.selectByBox "select_by_box") :=
    flagEntry_sound _ _ (by decide) trivial
  have menu : Sound kind type (flagEntry q.selectByMenu "select_by_menu") :=
    flagEntry_sound _ _ (by decide) trivial
  exact (((((head.append horder).append reselect).append box).append menu).append hshown).append
    htag

/-- A map that begins with the types of a selection and their codes. -/
theorem selectsTypes_of_head {host : HostConfig} {several : Bool} {types : List String}
    (others : Options) (hnonempty : types ≠ [])
    (hknown : several = true → ∀ t ∈ types, host.knowsReference t = true) :
    SelectsTypes host several (Value.mapOf (("types", .strings types) :: ("allowed_types",
      .array (types.map fun t => .integer (host.referenceCode t))) :: others)) := by
  refine ⟨types, hnonempty, rfl, rfl, fun t _ ht => ?_, hknown⟩
  rw [HostConfig.knowsReference, Option.isSome_eq_false_iff, Option.isNone_iff_eq_none] at ht
  rw [HostConfig.referenceCode, ht]
  rfl

end Check

end DialogScript
