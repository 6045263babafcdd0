import DialogScript.Check.Action
import DialogScript.Proofs.Checking.Gives

/-!
Every check of an intact action is calm: a walk through the definitions, from the shared rules to
the actions. What a check binds is homogeneous: the zero of a type, a converted number or text, or a
table, whose rows are maps from keys to plain values.
-/

namespace DialogScript.Check

variable {e : Expr}

/-! ## Shared rules -/

theorem requireWritable_calm (ns : List Int) : Calm (requireWritable ns) :=
  .eval fun _ _ => .orBreak (Number.checkWritable_arithmetic ns)

theorem scriptText_calm (e : Expr) : Calm (scriptText e) :=
  .eval fun _ _ => .orBreak e.text_arithmetic

theorem typeOf_calm (h : e.isIntact = true) : Calm (typeOf e) :=
  .eval fun _ hom => (Expr.reading_calm hom h).type

theorem integer_calm (h : e.isIntact = true) : Calm (integer e) :=
  .bind (.eval fun _ hom => (Expr.reading_calm hom h).integer) fun _ _ => .pure trivial

theorem double_calm (h : e.isIntact = true) : Calm (double e) :=
  .bind (.eval fun _ hom => (Expr.reading_calm hom h).double) fun _ _ => .pure trivial

theorem text_calm (h : e.isIntact = true) : Calm (text e) :=
  .bind (.eval fun _ hom => (Expr.reading_calm hom h).text) fun _ _ => .pure trivial

theorem remarkIf_calm (reason : Bool) (r : Remark) : Calm (remarkIf reason r) :=
  .ite (.remark r) (.pure trivial)

theorem requireIdentifier_calm (name field : String) : Calm (requireIdentifier name field) :=
  .bind .kind fun _ _ => .ite (.fail _) (.ite (.pure trivial) (.fail _))

theorem requireSubtype_calm (name : String) (subtype : ParamSubtype)
    (allowed : List ParamSubtype) : Calm (requireSubtype name subtype allowed) :=
  .bind .kind fun _ _ => .ite (.pure trivial) (.fail _)

theorem requirePresent_calm (e : Expr) (field : String) : Calm (requirePresent e field) :=
  .bind .kind fun _ _ => .ite (.fail _) (.pure trivial)

theorem bindParameter_calm (name : String) (type : ValueType) {initial : Value}
    (hi : initial.Homogeneous) : Calm (bindParameter name type initial) := by
  refine .bind (.lookup name) fun bound hbound => ?_
  cases bound with
  | none => exact .bind (.declare name hi) fun _ _ => .pure trivial
  | some existing =>
    refine .ite (.fail _) (.bind .kind fun _ _ => ?_)
    exact .bind (.declare name (hbound existing rfl)) fun _ _ => .remark _

theorem defaultValue_gives (subtype : ParamSubtype) (h : e.isIntact = true) :
    Gives Value.Homogeneous (defaultValue subtype e) := by
  refine .ite (.pure (.zeroOf _)) ?_
  cases subtype with
  | int => exact .map (integer_calm h) fun _ _ => .plain rfl
  | bool => exact .map (integer_calm h) fun _ _ => .plain rfl
  | double => exact .map (double_calm h) fun _ _ => .plain rfl
  | string => exact .map (text_calm h) fun _ _ => .plain rfl

theorem nonEmptyText_calm (h : e.isIntact = true) (what : String) : Calm (nonEmptyText e what) :=
  .bind (text_calm h) fun _ _ => .ite (.bind .kind fun _ _ => .fail _) (.pure trivial)

theorem optionalEntry_calm (h : e.isIntact = true) (key : String) {read : Expr → Check Value}
    (hr : ∀ e : Expr, e.isIntact = true → Calm (read e)) : Calm (optionalEntry e key read) :=
  .ite (.pure trivial) (.bind (hr e h) fun _ _ => .pure trivial)

theorem textEntry_calm (h : e.isIntact = true) (key what : String) :
    Calm (optionalEntry e key fun e => Value.string <$> nonEmptyText e what) :=
  optionalEntry_calm h key fun _ he => .map (nonEmptyText_calm he what) fun _ _ => trivial

theorem displayOrder_calm (h : e.isIntact = true) : Calm (displayOrder e) := by
  refine optionalEntry_calm h _ fun e he => .bind (integer_calm he) fun n _ => ?_
  exact .ite (.bind (requireWritable_calm [n]) fun _ _ => .fail _) (.pure trivial)

theorem tag_calm (name : String) (h : e.isIntact = true) : Calm (tag name e) :=
  textEntry_calm h _ _

theorem displayOptions_calm (name : String) {d : Display} (h : Intact d.slots) :
    Calm (displayOptions name d) := by
  simp only [Display.slots, Intact.cons_iff] at h
  obtain ⟨htooltip, himage, hx, hy, -⟩ := h
  have shown : Calm (tooltipAndImage name d) := by
    refine .bind .kind fun _ _ => .ite (.fail _) ?_
    exact .bind (textEntry_calm htooltip _ _) fun _ _ =>
      .bind (textEntry_calm himage _ _) fun _ _ => .pure trivial
  have placed : Calm (onPicture name d) := by
    refine .ite (.pure trivial) (.bind .kind fun _ _ => .ite (.fail _) ?_)
    refine .bind (integer_calm hx) fun x _ => .bind (integer_calm hy) fun y _ => ?_
    exact .ite (.bind (requireWritable_calm [x, y]) fun _ _ => .fail _) (.pure trivial)
  exact .bind shown fun _ _ => .bind placed fun _ _ => .pure trivial

theorem storeOptions_calm (name : String) (options : Options) : Calm (storeOptions name options) :=
  .bind .kind fun _ _ => .bind (.write trivial) fun _ _ => .remark _

theorem registerRequired_calm (list : TrackedList) (name : String) :
    Calm (registerRequired list name) :=
  .bind (.write trivial) fun _ _ => .remark _

/-! ## Parameters -/

theorem shownParam_calm {p : ShownParam} (h : Intact p.display.slots) : Calm (shownParam p) := by
  refine .bind (requireIdentifier_calm _ _) fun _ _ => ?_
  refine .bind (requireSubtype_calm _ _ _) fun _ _ => ?_
  refine .bind (bindParameter_calm _ _ (.zeroOf _)) fun _ _ => .ite ?_ (.pure trivial)
  exact .bind (displayOptions_calm _ h) fun _ _ => storeOptions_calm _ _

theorem checkboxParam_calm {p : CheckboxParam} (h : Intact (Action.checkbox p).slots) :
    Calm (checkboxParam p) := by
  simp only [Action.slots, Intact.cons_iff] at h
  obtain ⟨horder, htag, hdisplay⟩ := h
  refine .bind (requireIdentifier_calm _ _) fun _ _ => ?_
  refine .bind (requireSubtype_calm _ _ _) fun _ _ => ?_
  refine .bind (bindParameter_calm _ _ (.zeroOf _)) fun _ _ => .ite ?_ (.pure trivial)
  refine .bind (displayOrder_calm horder) fun _ _ => ?_
  refine .bind (displayOptions_calm _ hdisplay) fun _ _ => .bind (tag_calm _ htag) fun _ _ => ?_
  refine .bind (storeOptions_calm _ _) fun _ _ => ?_
  exact .ite (registerRequired_calm _ _) (.pure trivial)

theorem bindInput_calm {p : InputParam} (h : p.default.isIntact = true) : Calm (bindInput p) := by
  have initial : Gives Value.Homogeneous (inputValue p) :=
    .bind (.isBound _) fun _ _ => .ite (.pure (.zeroOf _)) (defaultValue_gives _ h)
  exact .bind initial fun _ hi => bindParameter_calm _ _ hi

theorem defaultFor_calm (p : InputParam) : Calm (defaultFor p) := by
  have hall (targets : List String) : Calm (defaultTargets p.name targets) := by
    induction targets with
    | nil => exact .pure trivial
    | cons target rest ih =>
      refine .bind .kind fun _ _ => .ite (.fail _) (.bind (.isBound target) fun _ _ => ?_)
      exact .bind (remarkIf_calm _ _) fun _ _ => ih
  exact .ite (.pure trivial) (.bind (hall _) fun _ _ => .pure trivial)

theorem inputWidth_calm {p : InputParam} (h : p.width.isIntact = true) : Calm (inputWidth p) :=
  optionalEntry_calm h _ fun _ he =>
    .bind (double_calm he) fun _ _ => .ite (.fail _) (.pure trivial)

theorem decimalPlaces_calm {p : InputParam} (h : p.decimalPlaces.isIntact = true) :
    Calm (decimalPlaces p) :=
  optionalEntry_calm h _ fun _ he => .bind (requireSubtype_calm _ _ _) fun _ _ =>
    .bind (double_calm he) fun _ _ => .ite (.fail _) (.pure trivial)

theorem inputBound_calm (h : e.isIntact = true) : Calm (inputBound e) :=
  .ite (.pure trivial) (.map (double_calm h) fun _ _ => trivial)

theorem inputRange_calm {p : InputParam} (hmin : p.minValue.isIntact = true)
    (hmax : p.maxValue.isIntact = true) : Calm (inputRange p) := by
  refine .ite (.pure trivial) (.bind (requireSubtype_calm _ _ _) fun _ _ => ?_)
  refine .bind (inputBound_calm hmin) fun least _ => ?_
  refine .bind (inputBound_calm hmax) fun greatest _ => ?_
  cases least <;> cases greatest
  case some.some => exact .ite (.fail _) (.pure trivial)
  all_goals exact .pure trivial

theorem inputParam_calm {p : InputParam} (h : Intact p.slots) : Calm (inputParam p) := by
  simp only [InputParam.slots, Intact.append_iff, Intact.cons_iff] at h
  obtain ⟨⟨hdefault, hwidth, hplaces, hmodel, horder, hmin, hmax, -⟩, hdisplay⟩ := h
  refine .bind (requireIdentifier_calm _ _) fun _ _ => ?_
  refine .bind (requireSubtype_calm _ _ _) fun _ _ => ?_
  refine .bind (bindInput_calm hdefault) fun _ _ => .ite ?_ (.pure trivial)
  refine .bind (defaultFor_calm p) fun _ _ => .bind (inputWidth_calm hwidth) fun _ _ => ?_
  refine .bind (decimalPlaces_calm hplaces) fun _ _ => ?_
  refine .bind (textEntry_calm hmodel _ _) fun _ _ => .bind (displayOrder_calm horder) fun _ _ => ?_
  refine .bind (inputRange_calm hmin hmax) fun _ _ => ?_
  exact .bind (displayOptions_calm _ hdisplay) fun _ _ => storeOptions_calm _ _

theorem optionLabels_calm (name : String) (place : Nat) {options : List Expr}
    (h : Intact options) : Calm (optionLabels name place options) := by
  induction options generalizing place with
  | nil => exact .pure trivial
  | cons e rest ih =>
    obtain ⟨he, hrest⟩ := Intact.cons_iff.1 h
    refine .bind (nonEmptyText_calm he _) fun _ _ => ?_
    exact .bind (ih (place + 1) hrest) fun _ _ => .pure trivial

theorem radioParam_calm {p : RadioParam} (h : Intact (Action.radio p).slots) :
    Calm (radioParam p) := by
  simp only [Action.slots, Intact.append_iff, Intact.cons_iff] at h
  obtain ⟨hoptions, horder, hdisplay⟩ := h
  have labels : Calm (radioOptions p) :=
    .ite (.pure trivial) (.bind (optionLabels_calm _ _ hoptions) fun _ _ => .pure trivial)
  refine .bind (requireIdentifier_calm _ _) fun _ _ => ?_
  refine .bind (requireSubtype_calm _ _ _) fun _ _ => ?_
  refine .ite (.fail _) (.bind (bindParameter_calm _ _ (.zeroOf _)) fun _ _ => ?_)
  refine .bind (remarkIf_calm _ _) fun _ _ => .ite ?_ (.pure trivial)
  refine .bind labels fun _ _ => .bind (displayOrder_calm horder) fun _ _ => ?_
  refine .bind (displayOptions_calm _ hdisplay) fun _ _ => ?_
  refine .bind (storeOptions_calm _ _) fun _ _ => ?_
  exact .ite (registerRequired_calm _ _) (.pure trivial)

/-! ## Selections -/

theorem takeTarget_calm (s : Selection) (name field : String) : Calm (takeTarget s name field) := by
  refine .bind (requireIdentifier_calm _ _) fun _ _ => .bind (.isBound name) fun _ _ => ?_
  exact .ite (.fail _) (.ite (.bind .kind fun _ _ => .fail _) (.pure trivial))

theorem typeNames_calm (strict : Bool) (place : Nat) {types : List Expr} (h : Intact types) :
    Calm (typeNames strict place types) := by
  induction types generalizing place with
  | nil => exact .pure trivial
  | cons e rest ih =>
    obtain ⟨he, hrest⟩ := Intact.cons_iff.1 h
    refine .bind (typeOf_calm he) fun _ _ => .ite (.failAt _ _) ?_
    refine .bind (nonEmptyText_calm he _) fun _ _ => ?_
    refine .bind .host fun _ _ => .bind .kind fun _ _ => .ite (.failAt _ _) ?_
    exact .bind (ih (place + 1) hrest) fun _ _ => .pure trivial

theorem noteUnknown_calm (types : List String) : Calm (noteUnknown types) := by
  induction types with
  | nil => exact .pure trivial
  | cons name rest ih => exact .bind .host fun _ _ => .bind (remarkIf_calm _ _) fun _ _ => ih

theorem selectionOptions_calm {s : Selection} (name : String) (required : Bool)
    (types : List String) (horder : s.displayOrder.isIntact = true)
    (hdisplay : Intact s.display.slots) (htag : s.tag.isIntact = true) :
    Calm (selectionOptions s name required types) := by
  refine .bind .host fun _ _ => .bind (displayOrder_calm horder) fun _ _ => ?_
  exact .bind (displayOptions_calm _ hdisplay) fun _ _ =>
    .bind (tag_calm _ htag) fun _ _ => .pure trivial

theorem bindSelection_calm (name : String) {value : Value} (hv : value.Homogeneous)
    (required : Bool) (options : Options) :
    Calm (bindSelection name value required options) := by
  refine .bind (.declare name hv) fun _ _ => .bind (storeOptions_calm _ _) fun _ _ => ?_
  exact .ite (registerRequired_calm _ _) (.pure trivial)

theorem filterEntry_calm (h : e.isIntact = true) (key : String) : Calm (filterEntry e key) :=
  optionalEntry_calm h key fun e _ => .map (scriptText_calm e) fun _ _ => trivial

theorem selection_calm {s : Selection} (h : Intact s.slots) : Calm (selection s) := by
  simp only [Selection.slots, Intact.append_iff, Intact.cons_iff] at h
  obtain ⟨⟨⟨htarget, htypes⟩, horder, hmodel, hfeature, hgeometry, hreference, hidentifier, hcad,
    htag, -⟩, hdisplay⟩ := h
  unfold selection
  cases ht : s.target with
  | unspecified => exact .pure trivial
  | one name required =>
    refine .bind (takeTarget_calm _ _ _) fun _ _ => .bind (typeNames_calm _ _ htypes) fun _ _ => ?_
    refine .bind (noteUnknown_calm _) fun _ _ => ?_
    refine .bind (selectionOptions_calm _ _ _ horder hdisplay htag) fun _ _ => ?_
    exact bindSelection_calm _ (.plain rfl) _ _
  | many name maxSel required =>
    rw [ht] at htarget
    have hmax := (Intact.cons_iff.1 htarget).1
    refine .bind (takeTarget_calm _ _ _) fun _ _ => .bind (typeNames_calm _ _ htypes) fun _ _ => ?_
    refine .bind (requirePresent_calm _ _) fun _ _ => .bind (integer_calm hmax) fun _ _ => ?_
    refine .bind (selectionOptions_calm _ _ _ horder hdisplay htag) fun _ _ => ?_
    refine .bind (optionalEntry_calm hcad _ fun _ he => .map (text_calm he) fun _ _ => trivial)
      fun _ _ => ?_
    refine .bind (filterEntry_calm hmodel _) fun _ _ => ?_
    refine .bind (filterEntry_calm hfeature _) fun _ _ => ?_
    refine .bind (filterEntry_calm hgeometry _) fun _ _ => ?_
    refine .bind (filterEntry_calm hreference _) fun _ _ => ?_
    refine .bind (optionalEntry_calm hidentifier _ fun _ he =>
      .map (text_calm he) fun _ _ => trivial) fun _ _ => ?_
    refine .bind (bindSelection_calm _ (.zeroOf .array) _ _) fun _ _ => ?_
    exact .bind (requireWritable_calm _) fun _ _ => .remark _

/-! ## Tables -/

theorem columnTypes_calm (place : Nat) {types : List Expr} (h : Intact types) :
    Calm (columnTypes place types) := by
  induction types generalizing place with
  | nil => exact .pure trivial
  | cons e rest ih =>
    obtain ⟨he, hrest⟩ := Intact.cons_iff.1 h
    refine .bind (text_calm he) fun s _ => .bind .host fun host _ => ?_
    split
    · exact .fail _
    · exact .bind (ih (place + 1) hrest) fun _ _ => .pure trivial

theorem texts_calm {es : List Expr} (h : Intact es) : Calm (texts es) := by
  induction es with
  | nil => exact .pure trivial
  | cons e rest ih =>
    obtain ⟨he, hrest⟩ := Intact.cons_iff.1 h
    exact .bind (text_calm he) fun _ _ => .bind (ih hrest) fun _ _ => .pure trivial

theorem columnKeys_calm {es : List Expr} (h : Intact es) : Calm (columnKeys es) := by
  have columnKey_calm {e : Expr} (he : e.isIntact = true) : Calm (columnKey e) := by
    have named : Calm (columnName e) := by
      unfold columnName
      split
      · exact .pure trivial
      · exact text_calm he
    refine .bind named fun _ _ => .ite (.pure trivial) ?_
    exact .bind .kind fun _ _ => .failAt _ _
  induction es with
  | nil => exact .pure trivial
  | cons e rest ih =>
    obtain ⟨he, hrest⟩ := Intact.cons_iff.1 h
    exact .bind (columnKey_calm he) fun _ _ => .bind (ih hrest) fun _ _ => .pure trivial

/-- What a cell may hold: nothing, or a homogeneous value. -/
def CellHomogeneous (found : Option Value) : Prop := ∀ v, found = some v → v.Homogeneous

theorem cellHomogeneous_some {v : Value} (h : v.type.isContainer = false) :
    CellHomogeneous (some v) := by
  rintro _ ⟨⟩
  exact .plain h

theorem cellHomogeneous_textValue (s : String) : CellHomogeneous (textValue s) := by
  unfold textValue
  split
  · rintro _ ⟨⟩
  · exact cellHomogeneous_some rfl

theorem cellValue_gives (row column : Nat) (columnType : String × ValueType) {cell : Expr}
    (h : cell.isIntact = true) : Gives CellHomogeneous (cellValue row column columnType cell) := by
  refine .ite (.pure (by rintro _ ⟨⟩)) ?_
  have forward : Calm (forwardName? columnType.1 cell) := by
    unfold forwardName?
    split
    · exact .bind (.isBound _) fun _ _ => .pure trivial
    · exact .pure trivial
  refine .bind forward fun forward _ => ?_
  cases forward with
  | some name => exact .bind (.remark _) fun _ _ => .pure (cellHomogeneous_some rfl)
  | none =>
    dsimp only
    split
    · exact .map (integer_calm h) fun _ _ => cellHomogeneous_some rfl
    · exact .map (integer_calm h) fun _ _ => cellHomogeneous_some rfl
    · exact .map (double_calm h) fun _ _ => cellHomogeneous_some rfl
    · exact .map (text_calm h) fun _ _ => cellHomogeneous_textValue _
    · exact .map (text_calm h) fun _ _ => cellHomogeneous_textValue _
    · exact .failAt _ _

theorem rowCells_gives (row column : Nat) {entries : List (String × Option Value)}
    (hentries : ∀ e ∈ entries, CellHomogeneous e.2)
    {cells : List (Expr × String × String × ValueType)} (h : ∀ c ∈ cells, c.1.isIntact = true) :
    Gives (fun found => ∀ e ∈ found, CellHomogeneous e.2) (rowCells row column entries cells) := by
  induction cells generalizing column entries with
  | nil => exact .pure hentries
  | cons cell rest ih =>
    obtain ⟨hcell, hrest⟩ := List.forall_mem_cons.1 h
    refine .bind (cellValue_gives _ _ _ hcell) fun value hv => ih _ (fun e he => ?_) hrest
    rcases Keyed.mem_put he with rfl | he
    · exact hv
    · exact hentries e he

/-- The rows of a table: homogeneous maps. -/
def RowsHomogeneous (rows : List Value) : Prop := ∀ v ∈ rows, v.type = .map ∧ v.Homogeneous

theorem tableRows_gives (table : String) (keys : List String) (types : List (String × ValueType))
    (place : Nat) {rows : List (List Expr)} (h : Intact rows.flatten) :
    Gives RowsHomogeneous (tableRows table keys types place rows) := by
  induction rows generalizing place with
  | nil => exact .pure fun _ hv => absurd hv List.not_mem_nil
  | cons cells rest ih =>
    rw [List.flatten_cons, Intact.append_iff] at h
    have hcells : ∀ c ∈ cells.zip (keys.zip types), c.1.isIntact = true :=
      fun c hc => h.1 c.1 (List.of_mem_zip hc).1
    refine .ite (.fail _) ?_
    refine .bind (rowCells_gives place 0 (fun _ he => absurd he List.not_mem_nil) hcells) ?_
    refine fun entries hentries => .bind (ih (place + 1) h.2) fun others hothers => ?_
    refine .pure (List.forall_mem_cons.2 ⟨⟨rfl, .map fun key v hv => ?_⟩, hothers⟩)
    exact hentries (key, some v) hv v rfl

theorem bindTable_calm (name : String) {value : Value} (h : value.Homogeneous) :
    Calm (bindTable name value) := by
  refine .bind (.isBound name) fun _ _ => .ite ?_ ?_
  · exact .bind (.write (w := .overwrite name value) h) fun _ _ => .remark _
  · exact .bind (.declare name h) fun _ _ => .pure trivial

/-- Entries with homogeneous values. -/
def EntriesHomogeneous (entries : Options) : Prop := ∀ e ∈ entries, e.2.Homogeneous

theorem entriesHomogeneous_flags (t : SelectionTable) : EntriesHomogeneous (tableFlags t) := by
  intro e he
  simp only [tableFlags, List.mem_cons, List.not_mem_nil, or_false] at he
  rcases he with rfl | rfl | rfl | rfl | rfl | rfl | rfl <;> exact .plain rfl

theorem entriesHomogeneous_columnNumber (key : String) (n : Whole) :
    EntriesHomogeneous (columnNumber key n) := by
  unfold columnNumber
  split
  · intro e he
    rw [List.mem_singleton.1 he]
    exact .plain rfl
  · exact fun _ he => absurd he List.not_mem_nil

/-- The entries that every table has. -/
theorem entriesHomogeneous_rows {rows : List Value} (h : RowsHomogeneous rows)
    (keys options : List String) (height : Int) :
    EntriesHomogeneous [("rows", .array rows), ("columns", Value.strings keys),
      ("options", Value.strings options), ("table_height", .integer height)] := by
  have hrows : (Value.array rows).Homogeneous :=
    .array .map (fun v hv => (h v hv).1) fun v hv => (h v hv).2
  intro e he
  simp only [List.mem_cons, List.not_mem_nil, or_false] at he
  rcases he with rfl | rfl | rfl | rfl
  · exact hrows
  · exact .strings keys
  · exact .strings options
  · exact .plain rfl

theorem tableName_gives (t : SelectionTable) (h : t.name.isIntact = true) :
    Gives EntriesHomogeneous (optionalEntry t.name "name" fun e => do
      let s ← text e
      pure (.string (if s = "" then t.identifier else s))) := by
  refine .ite (.pure fun _ he => absurd he List.not_mem_nil) ?_
  refine .bind (.bind (P := fun _ => True) (text_calm h) fun s _ =>
    .pure (P := Value.Homogeneous) (.plain rfl)) fun v hv => .pure fun e he => ?_
  rw [List.mem_singleton.1 he]
  exact hv

theorem selectionTable_calm {t : SelectionTable} (h : Intact t.slots) :
    Calm (selectionTable t) := by
  simp only [SelectionTable.slots, Intact.append_iff, Intact.cons_iff, List.cons_append] at h
  obtain ⟨hname, ⟨⟨hoptions, hkeys⟩, htypes⟩, hrows⟩ := h
  have hnamed : Intact t.selStrings.tail := fun e he => hkeys e (List.mem_of_mem_tail he)
  refine .bind (requireIdentifier_calm _ _) fun _ _ => .ite (.fail _) ?_
  refine .bind (columnTypes_calm 0 htypes) fun _ _ => .bind (texts_calm hoptions) fun _ _ => ?_
  refine .ite (.fail _) (.bind (columnKeys_calm hnamed) fun named _ => ?_)
  refine .bind (tableRows_gives _ _ _ 0 hrows) fun rows hrows => ?_
  refine .bind (tableName_gives t hname) fun name hn => bindTable_calm _ (.mapOf ?_)
  simp only [List.forall_mem_append]
  exact ⟨⟨⟨⟨entriesHomogeneous_rows hrows _ _ _, hn⟩, entriesHomogeneous_flags t⟩,
    entriesHomogeneous_columnNumber _ _⟩, entriesHomogeneous_columnNumber _ _⟩

/-! ## The dialog -/

theorem size_calm (h : e.isIntact = true) (what : String) : Calm (size e what) := by
  refine .ite (.pure trivial) (.bind (double_calm h) fun x _ => .ite (.fail _) ?_)
  exact .bind (.remark _) fun _ _ => .pure trivial

theorem configuration_calm {c : DialogConfig} (h : Intact (Action.configure c).slots) :
    Calm (configuration c) := by
  simp only [Action.slots, Intact.cons_iff] at h
  obtain ⟨hlocation, hwidth, hheight, -⟩ := h
  have location : Calm (screenLocation c) := by
    refine .ite (.pure trivial) (.bind (requirePresent_calm _ _) fun _ _ => ?_)
    refine .bind (nonEmptyText_calm hlocation _) fun _ _ => .bind .host fun _ _ => ?_
    exact .ite (.pure trivial) (.fail _)
  refine .bind (.singleton _) fun _ _ => .ite (.fail _) ?_
  refine .bind (size_calm hwidth _) fun _ _ => .bind (size_calm hheight _) fun _ _ => ?_
  exact .ite (.fail _) (.bind location fun _ _ => .write trivial)

theorem picturePath_calm (file : String) : Calm (picturePath file) := by
  refine .bind .host fun _ _ => .bind (.lookup _) fun base _ => ?_
  split
  · exact .pure trivial
  · exact .pure trivial

theorem globalPicture_calm {picture : Expr} (h : picture.isIntact = true) :
    Calm (globalPicture picture) := by
  refine .bind (requirePresent_calm _ _) fun _ _ => .bind (.singleton _) fun _ _ => ?_
  refine .ite (.fail _) (.bind (nonEmptyText_calm h _) fun _ _ => ?_)
  refine .bind (picturePath_calm _) fun _ _ => .bind (.write trivial) fun _ _ => .remark _

theorem requireInteger_calm (label : String) (h : e.isIntact = true) :
    Calm (requireInteger label e) :=
  .bind (typeOf_calm h) fun _ _ => .ite (.pure trivial) (.failAt _ _)

theorem subPicture_calm {picture posX posY : Expr} (hpicture : picture.isIntact = true)
    (hx : posX.isIntact = true) (hy : posY.isIntact = true) :
    Calm (subPicture picture posX posY) := by
  refine .bind (requirePresent_calm _ _) fun _ _ => .bind (requirePresent_calm _ _) fun _ _ => ?_
  refine .bind (requirePresent_calm _ _) fun _ _ => .bind (.singleton _) fun _ _ => ?_
  refine .ite (.fail _) (.bind (requireInteger_calm _ hx) fun _ _ => ?_)
  refine .bind (requireInteger_calm _ hy) fun _ _ => .bind (nonEmptyText_calm hpicture _) ?_
  refine fun _ _ => .bind (picturePath_calm _) fun _ _ => .bind .host fun _ _ => ?_
  refine .bind (remarkIf_calm _ _) fun _ _ => .bind (integer_calm hx) fun _ _ => ?_
  exact .bind (integer_calm hy) fun _ _ => .write trivial

/-! ## Declarations and assignments -/

theorem declaration_calm {d : Declaration} (h : d.default.isIntact = true) :
    Calm (declaration d) := by
  have first (type : ValueType) : Gives Value.Homogeneous (firstValue d type) := by
    unfold firstValue
    split
    · exact defaultValue_gives _ h
    · exact .ite (.pure (.zeroOf _)) (.fail _)
  refine .bind (requireIdentifier_calm _ _) fun _ _ => ?_
  split
  · exact .fail _
  · refine .bind (.lookup _) fun bound hbound => ?_
    cases bound with
    | some existing =>
      refine .ite (.fail _) (.bind (.declare _ (hbound existing rfl)) fun _ _ => .remark _)
    | none =>
      exact .bind (first _) fun value hv => .bind (.declare _ hv) fun _ _ => .pure trivial

theorem invalidation_calm (name : String) : Calm (invalidation name) := by
  have scalar : Calm (requireScalar name) := by
    refine .bind (.lookup name) fun bound _ => ?_
    cases bound with
    | none => exact .remark _
    | some existing => exact .ite (.pure trivial) (.fail _)
  refine .bind (requireIdentifier_calm _ _) fun _ _ => .bind scalar fun _ _ => ?_
  exact .bind (.write trivial) fun _ _ => .remark _

theorem assignableTypes_calm (text : String) (lhs rhs : ValueType) :
    Calm (assignableTypes text lhs rhs) := by
  refine .ite (.pure trivial) ?_
  split
  · exact .pure trivial
  · exact .remark _
  · exact .fail _

/-- The branch around an assignment is known wherever the conditional is. -/
theorem assignment_calm {lhs rhs : Expr} (hl : lhs.isIntact = true) (hr : rhs.isIntact = true)
    (id : Int) : Calm (assignment lhs rhs id) := by
  refine .bind (requirePresent_calm _ _) fun _ _ => .bind (requirePresent_calm _ _) fun _ _ => ?_
  refine .ite (.bind (scriptText_calm lhs) fun _ _ => .failAt _ _) ?_
  refine .bind (typeOf_calm hl) fun _ _ => .bind (typeOf_calm hr) fun _ _ => ?_
  refine .bind (scriptText_calm lhs) fun _ _ => .bind (assignableTypes_calm _ _ _) fun _ _ => ?_
  refine .bind (scriptText_calm rhs) fun _ _ => .bind .branchAround fun around ha => ?_
  refine .bind (.eval fun _ _ => .orBreak fun b hb => ?_) fun _ _ => .write trivial
  obtain ⟨conditional, branch⟩ := around
  cases conditional with
  | none => cases hb
  | some id =>
    obtain ⟨place, hplace⟩ := ha id rfl
    obtain rfl : branch = some place := hplace
    cases hb

theorem bareExpression_calm (h : e.isIntact = true) : Calm (bareExpression e) :=
  .bind (requirePresent_calm _ _) fun _ _ => .bind (typeOf_calm h) fun _ _ => .pure trivial

/-! ## Actions and conditions -/

theorem action_calm {a : Action} (h : Intact a.slots) : Calm (action a) := by
  cases a with
  | declare d => exact declaration_calm (Intact.cons_iff.1 h).1
  | configure c => exact configuration_calm h
  | globalPicture picture => exact globalPicture_calm (Intact.cons_iff.1 h).1
  | subPicture picture posX posY =>
    simp only [Action.slots, Intact.cons_iff] at h
    exact subPicture_calm h.1 h.2.1 h.2.2.1
  | showParam p => exact shownParam_calm h
  | checkbox p => exact checkboxParam_calm h
  | userInput p => exact inputParam_calm h
  | radio p => exact radioParam_calm h
  | select s => exact selection_calm h
  | table t => exact selectionTable_calm h
  | invalidate name => exact invalidation_calm name
  | assign lhs rhs id =>
    simp only [Action.slots, Intact.cons_iff] at h
    exact assignment_calm h.1 h.2.1 id
  | evaluate e => exact bareExpression_calm (Intact.cons_iff.1 h).1

theorem condition_calm (branch : Nat) (h : e.isIntact = true) : Calm (condition branch e) :=
  .bind (requirePresent_calm _ _) fun _ _ => .bind (typeOf_calm h) fun _ _ =>
    .ite (.pure trivial) (.failAt _ _)

end DialogScript.Check
