import DialogScript.Check.Action
import DialogScript.Proofs.Checking.Tame

/-!
Every check is tame: a walk through the definitions, from the shared rules to the actions.
-/

namespace DialogScript.Check

variable {P : SymbolTable.Write → Prop}

/-! ## Shared rules -/

theorem requireWritable_tame (ns : List Int) : Tame P (requireWritable ns) := .eval (.orBreak _)

theorem typeOf_tame (e : Expr) : Tame P (typeOf e) := .eval e.reading_warnsOfPaths.type

theorem scriptText_tame (e : Expr) : Tame P (scriptText e) := .eval (.orBreak _)

theorem integer_tame (e : Expr) : Tame P (integer e) :=
  .bind (.eval e.reading_warnsOfPaths.integer) fun _ => .pure _

theorem double_tame (e : Expr) : Tame P (double e) :=
  .bind (.eval e.reading_warnsOfPaths.double) fun _ => .pure _

theorem text_tame (e : Expr) : Tame P (text e) :=
  .bind (.eval e.reading_warnsOfPaths.text) fun _ => .pure _

theorem remarkIf_tame (reason : Bool) (r : Remark) : Tame P (remarkIf reason r) :=
  .ite (.remark r) (.pure ())

theorem requireIdentifier_tame (name field : String) : Tame P (requireIdentifier name field) :=
  .bind .kind fun _ => .ite (.fail _) (.ite (.pure ()) (.fail _))

theorem requireSubtype_tame (name : String) (subtype : ParamSubtype)
    (allowed : List ParamSubtype) : Tame P (requireSubtype name subtype allowed) :=
  .bind .kind fun _ => .ite (.pure ()) (.fail _)

theorem requirePresent_tame (e : Expr) (field : String) : Tame P (requirePresent e field) :=
  .bind .kind fun _ => .ite (.fail _) (.pure ())

theorem bindParameter_tame (name : String) (type : ValueType) (initial : Value) :
    Tame noRecord (bindParameter name type initial) := by
  refine .bind (.lookup name) fun bound => ?_
  split
  · exact .bind (.declare rfl) fun _ => .pure ()
  · refine .ite (.fail _) (.bind .kind fun _ => ?_)
    exact .bind (.declare rfl) fun _ => .remark _

theorem defaultValue_tame (subtype : ParamSubtype) (e : Expr) :
    Tame P (defaultValue subtype e) := by
  refine .ite (.pure _) ?_
  cases subtype with
  | int => exact (integer_tame e).map _
  | bool => exact (integer_tame e).map _
  | double => exact (double_tame e).map _
  | string => exact (text_tame e).map _

theorem nonEmptyText_tame (e : Expr) (what : String) : Tame P (nonEmptyText e what) :=
  .bind (text_tame e) fun _ => .ite (.bind .kind fun _ => .fail _) (.pure _)

theorem optionalEntry_tame (e : Expr) (key : String) {read : Expr → Check Value}
    (h : ∀ e, Tame P (read e)) : Tame P (optionalEntry e key read) :=
  .ite (.pure []) (.bind (h e) fun _ => .pure _)

theorem textEntry_tame (e : Expr) (key what : String) :
    Tame P (optionalEntry e key fun e => Value.string <$> nonEmptyText e what) :=
  optionalEntry_tame e key fun e => (nonEmptyText_tame e what).map _

theorem displayOrder_tame (e : Expr) : Tame P (displayOrder e) := by
  refine optionalEntry_tame e _ fun e => .bind (integer_tame e) fun n => ?_
  exact .ite (.bind (requireWritable_tame [n]) fun _ => .fail _) (.pure _)

theorem tag_tame (name : String) (e : Expr) : Tame P (tag name e) := textEntry_tame e _ _

theorem tooltipAndImage_tame (name : String) (d : Display) : Tame P (tooltipAndImage name d) := by
  refine .bind .kind fun kind => .ite (.fail _) ?_
  exact .bind (textEntry_tame d.tooltip _ _) fun _ =>
    .bind (textEntry_tame d.image _ _) fun _ => .pure _

theorem onPicture_tame (name : String) (d : Display) : Tame P (onPicture name d) := by
  refine .ite (.pure []) (.bind .kind fun kind => .ite (.fail _) ?_)
  refine .bind (integer_tame d.posX) fun x => .bind (integer_tame d.posY) fun y => ?_
  exact .ite (.bind (requireWritable_tame [x, y]) fun _ => .fail _) (.pure _)

theorem displayOptions_tame (name : String) (d : Display) : Tame P (displayOptions name d) :=
  .bind (tooltipAndImage_tame name d) fun _ => .bind (onPicture_tame name d) fun _ => .pure _

theorem storeOptions_tame (name : String) (options : Options) :
    Tame noRecord (storeOptions name options) :=
  .bind .kind fun _ => .bind (.write rfl) fun _ => .remark _

theorem registerRequired_tame (list : TrackedList) (name : String) :
    Tame noRecord (registerRequired list name) := .bind (.write rfl) fun _ => .remark _

/-! ## Parameters -/

theorem shownParam_tame (p : ShownParam) : Tame noRecord (shownParam p) := by
  refine .bind (requireIdentifier_tame _ _) fun _ => .bind (requireSubtype_tame _ _ _) fun _ => ?_
  refine .bind (bindParameter_tame _ _ _) fun _ => .ite ?_ (.pure ())
  exact .bind (displayOptions_tame _ _) fun _ => storeOptions_tame _ _

theorem checkboxParam_tame (p : CheckboxParam) : Tame noRecord (checkboxParam p) := by
  refine .bind (requireIdentifier_tame _ _) fun _ => .bind (requireSubtype_tame _ _ _) fun _ => ?_
  refine .bind (bindParameter_tame _ _ _) fun _ => .ite ?_ (.pure ())
  refine .bind (displayOrder_tame _) fun _ => .bind (displayOptions_tame _ _) fun _ => ?_
  refine .bind (tag_tame _ _) fun _ => .bind (storeOptions_tame _ _) fun _ => ?_
  exact .ite (registerRequired_tame _ _) (.pure ())

theorem inputValue_tame (p : InputParam) : Tame P (inputValue p) :=
  .bind (.isBound _) fun _ => .ite (.pure _) (defaultValue_tame _ _)

theorem bindInput_tame (p : InputParam) : Tame noRecord (bindInput p) :=
  .bind (inputValue_tame p) fun _ => bindParameter_tame _ _ _

theorem defaultTargets_tame (name : String) (targets : List String) :
    Tame P (defaultTargets name targets) := by
  induction targets with
  | nil => exact .pure ()
  | cons target rest ih =>
    refine .bind .kind fun _ => .ite (.fail _) (.bind (.isBound target) fun _ => ?_)
    exact .bind (remarkIf_tame _ _) fun _ => ih

theorem defaultFor_tame (p : InputParam) : Tame P (defaultFor p) :=
  .ite (.pure []) (.bind (defaultTargets_tame _ _) fun _ => .pure _)

theorem inputWidth_tame (p : InputParam) : Tame P (inputWidth p) :=
  optionalEntry_tame _ _ fun e => .bind (double_tame e) fun _ => .ite (.fail _) (.pure _)

theorem decimalPlaces_tame (p : InputParam) : Tame P (decimalPlaces p) :=
  optionalEntry_tame _ _ fun e => .bind (requireSubtype_tame _ _ _) fun _ =>
    .bind (double_tame e) fun _ => .ite (.fail _) (.pure _)

theorem inputBound_tame (e : Expr) : Tame P (inputBound e) :=
  .ite (.pure none) ((double_tame e).map _)

theorem inputRange_tame (p : InputParam) : Tame P (inputRange p) := by
  refine .ite (.pure []) (.bind (requireSubtype_tame _ _ _) fun _ => ?_)
  refine .bind (inputBound_tame _) fun least => .bind (inputBound_tame _) fun greatest => ?_
  cases least <;> cases greatest
  case some.some => exact .ite (.fail _) (.pure _)
  all_goals exact .pure _

theorem inputParam_tame (p : InputParam) : Tame noRecord (inputParam p) := by
  refine .bind (requireIdentifier_tame _ _) fun _ => .bind (requireSubtype_tame _ _ _) fun _ => ?_
  refine .bind (bindInput_tame p) fun _ => .ite ?_ (.pure ())
  refine .bind (defaultFor_tame p) fun _ => .bind (inputWidth_tame p) fun _ => ?_
  refine .bind (decimalPlaces_tame p) fun _ => .bind (textEntry_tame p.model _ _) fun _ => ?_
  refine .bind (displayOrder_tame _) fun _ => .bind (inputRange_tame p) fun _ => ?_
  exact .bind (displayOptions_tame _ _) fun _ => storeOptions_tame _ _

theorem optionLabels_tame (name : String) (place : Nat) (options : List Expr) :
    Tame P (optionLabels name place options) := by
  induction options generalizing place with
  | nil => exact .pure []
  | cons e rest ih =>
    exact .bind (nonEmptyText_tame _ _) fun _ => .bind (ih (place + 1)) fun _ => .pure _

theorem radioOptions_tame (p : RadioParam) : Tame P (radioOptions p) :=
  .ite (.pure []) (.bind (optionLabels_tame _ _ _) fun _ => .pure _)

theorem radioParam_tame (p : RadioParam) : Tame noRecord (radioParam p) := by
  refine .bind (requireIdentifier_tame _ _) fun _ => .bind (requireSubtype_tame _ _ _) fun _ => ?_
  refine .ite (.fail _) (.bind (bindParameter_tame _ _ _) fun _ => ?_)
  refine .bind (remarkIf_tame _ _) fun _ => .ite ?_ (.pure ())
  refine .bind (radioOptions_tame p) fun _ => .bind (displayOrder_tame _) fun _ => ?_
  refine .bind (displayOptions_tame _ _) fun _ => .bind (storeOptions_tame _ _) fun _ => ?_
  exact .ite (registerRequired_tame _ _) (.pure ())

/-! ## Selections -/

theorem takeTarget_tame (s : Selection) (name field : String) :
    Tame P (takeTarget s name field) := by
  refine .bind (requireIdentifier_tame _ _) fun _ => .bind (.isBound name) fun _ => ?_
  exact .ite (.fail _) (.ite (.bind .kind fun _ => .fail _) (.pure ()))

theorem typeNames_tame (strict : Bool) (place : Nat) (types : List Expr) :
    Tame P (typeNames strict place types) := by
  induction types generalizing place with
  | nil => exact .pure []
  | cons e rest ih =>
    refine .bind (typeOf_tame e) fun _ => .ite (.failAt _ _) ?_
    refine .bind (nonEmptyText_tame _ _) fun _ => .bind .host fun _ => .bind .kind fun _ => ?_
    exact .ite (.failAt _ _) (.bind (ih (place + 1)) fun _ => .pure _)

theorem selectionOptions_tame (s : Selection) (name : String) (required : Bool)
    (types : List String) : Tame P (selectionOptions s name required types) := by
  refine .bind .host fun _ => .bind (displayOrder_tame _) fun _ => ?_
  exact .bind (displayOptions_tame _ _) fun _ => .bind (tag_tame _ _) fun _ => .pure _

theorem noteUnknown_tame (types : List String) : Tame P (noteUnknown types) := by
  induction types with
  | nil => exact .pure ()
  | cons name rest ih => exact .bind .host fun _ => .bind (remarkIf_tame _ _) fun _ => ih

theorem bindSelection_tame (name : String) (value : Value) (required : Bool) (options : Options) :
    Tame noRecord (bindSelection name value required options) := by
  refine .bind (.declare rfl) fun _ => .bind (storeOptions_tame _ _) fun _ => ?_
  exact .ite (registerRequired_tame _ _) (.pure ())

theorem singleSelection_tame (s : Selection) (name : String) (required : Bool) :
    Tame noRecord (singleSelection s name required) := by
  refine .bind (takeTarget_tame _ _ _) fun _ => .bind (typeNames_tame _ _ _) fun types => ?_
  refine .bind (noteUnknown_tame types) fun _ => ?_
  exact .bind (selectionOptions_tame _ _ _ _) fun _ => bindSelection_tame _ _ _ _

theorem filterEntry_tame (e : Expr) (key : String) : Tame P (filterEntry e key) :=
  optionalEntry_tame e key fun e => (scriptText_tame e).map _

theorem multipleSelection_tame (s : Selection) (name : String) (maxSel : Expr) (required : Bool) :
    Tame noRecord (multipleSelection s name maxSel required) := by
  refine .bind (takeTarget_tame _ _ _) fun _ => .bind (typeNames_tame _ _ _) fun types => ?_
  refine .bind (requirePresent_tame _ _) fun _ => .bind (integer_tame maxSel) fun _ => ?_
  refine .bind (selectionOptions_tame _ _ _ _) fun _ => ?_
  refine .bind (optionalEntry_tame _ _ fun e => (text_tame e).map _) fun _ => ?_
  refine .bind (filterEntry_tame _ _) fun _ => .bind (filterEntry_tame _ _) fun _ => ?_
  refine .bind (filterEntry_tame _ _) fun _ => .bind (filterEntry_tame _ _) fun _ => ?_
  refine .bind (optionalEntry_tame _ _ fun e => (text_tame e).map _) fun _ => ?_
  refine .bind (bindSelection_tame _ _ _ _) fun _ => ?_
  exact .bind (requireWritable_tame _) fun _ => .remark _

theorem selection_tame (s : Selection) : Tame noRecord (selection s) := by
  unfold selection
  split
  · exact .pure ()
  · exact singleSelection_tame _ _ _
  · exact multipleSelection_tame _ _ _ _

/-! ## Tables -/

theorem columnTypes_tame (place : Nat) (types : List Expr) : Tame P (columnTypes place types) := by
  induction types generalizing place with
  | nil => exact .pure []
  | cons e rest ih =>
    refine .bind (text_tame e) fun s => .bind .host fun host => ?_
    split
    · exact .fail _
    · exact .bind (ih (place + 1)) fun _ => .pure _

theorem texts_tame (es : List Expr) : Tame P (texts es) := by
  induction es with
  | nil => exact .pure []
  | cons e rest ih => exact .bind (text_tame e) fun _ => .bind ih fun _ => .pure _

theorem columnName_tame (e : Expr) : Tame P (columnName e) := by
  unfold columnName
  split
  · exact .pure _
  · exact text_tame _

theorem columnKey_tame (e : Expr) : Tame P (columnKey e) := by
  refine .bind (columnName_tame e) fun _ => .ite (.pure _) ?_
  exact .bind .kind fun _ => .failAt _ _

theorem columnKeys_tame (es : List Expr) : Tame P (columnKeys es) := by
  induction es with
  | nil => exact .pure []
  | cons e rest ih => exact .bind (columnKey_tame e) fun _ => .bind ih fun _ => .pure _

theorem forwardName?_tame (columnType : String) (cell : Expr) :
    Tame P (forwardName? columnType cell) := by
  unfold forwardName?
  split
  · exact .bind (.isBound _) fun _ => .pure _
  · exact .pure none

theorem filledValue_tame (row column : Nat) (columnType : String × ValueType) (cell : Expr) :
    Tame P (filledValue row column columnType cell) := by
  refine .bind (forwardName?_tame _ _) fun forward => ?_
  cases forward with
  | some name => exact .bind (.remark _) fun _ => .pure _
  | none =>
    dsimp only
    split
    · exact (integer_tame cell).map _
    · exact (integer_tame cell).map _
    · exact (double_tame cell).map _
    · exact (text_tame cell).map _
    · exact (text_tame cell).map _
    · exact .failAt _ _

theorem cellValue_tame (row column : Nat) (columnType : String × ValueType) (cell : Expr) :
    Tame P (cellValue row column columnType cell) := .ite (.pure none) (filledValue_tame _ _ _ _)

theorem rowCells_tame (row column : Nat) (entries : List (String × Option Value))
    (cells : List (Expr × String × String × ValueType)) :
    Tame P (rowCells row column entries cells) := by
  induction cells generalizing column entries with
  | nil => exact .pure entries
  | cons cell rest ih => exact .bind (cellValue_tame _ _ _ _) fun _ => ih _ _

theorem tableRows_tame (table : String) (keys : List String) (types : List (String × ValueType))
    (place : Nat) (rows : List (List Expr)) : Tame P (tableRows table keys types place rows) := by
  induction rows generalizing place with
  | nil => exact .pure []
  | cons cells rest ih =>
    refine .ite (.fail _) (.bind (rowCells_tame _ _ _ _) fun _ => ?_)
    exact .bind (ih (place + 1)) fun _ => .pure _

theorem bindTable_tame (name : String) (value : Value) : Tame noRecord (bindTable name value) := by
  refine .bind (.isBound name) fun _ => .ite ?_ ?_
  · exact .bind (.write rfl) fun _ => .remark _
  · exact .bind (.declare rfl) fun _ => .pure ()

theorem selectionTable_tame (t : SelectionTable) : Tame noRecord (selectionTable t) := by
  refine .bind (requireIdentifier_tame _ _) fun _ => .ite (.fail _) ?_
  refine .bind (columnTypes_tame _ _) fun _ => .bind (texts_tame _) fun _ => .ite (.fail _) ?_
  refine .bind (columnKeys_tame _) fun _ => .bind (tableRows_tame _ _ _ _ _) fun _ => ?_
  refine .bind (optionalEntry_tame _ _ fun e => ?_) fun _ => bindTable_tame _ _
  exact .bind (text_tame e) fun _ => .pure _

/-! ## The dialog, declarations and assignments -/

theorem size_tame (e : Expr) (what : String) : Tame P (size e what) := by
  refine .ite (.pure none) (.bind (double_tame e) fun x => .ite (.fail _) ?_)
  exact .bind (.remark _) fun _ => .pure _

theorem screenLocation_tame (c : DialogConfig) : Tame P (screenLocation c) := by
  refine .ite (.pure none) (.bind (requirePresent_tame _ _) fun _ => ?_)
  refine .bind (nonEmptyText_tame _ _) fun _ => .bind .host fun _ => ?_
  exact .ite (.pure _) (.fail _)

theorem configuration_tame (c : DialogConfig) : Tame noRecord (configuration c) := by
  refine .bind (.singleton _) fun _ => .ite (.fail _) ?_
  refine .bind (size_tame _ _) fun _ => .bind (size_tame _ _) fun _ => .ite (.fail _) ?_
  exact .bind (screenLocation_tame c) fun _ => .write rfl

theorem picturePath_tame (file : String) : Tame P (picturePath file) := by
  refine .bind .host fun _ => .bind (.lookup _) fun base => ?_
  split
  · exact .pure _
  · exact .pure _

theorem globalPicture_tame (picture : Expr) : Tame noRecord (globalPicture picture) := by
  refine .bind (requirePresent_tame _ _) fun _ => .bind (.singleton _) fun _ => .ite (.fail _) ?_
  refine .bind (nonEmptyText_tame _ _) fun _ => .bind (picturePath_tame _) fun _ => ?_
  exact .bind (.write rfl) fun _ => .remark _

theorem requireInteger_tame (label : String) (e : Expr) : Tame P (requireInteger label e) :=
  .bind (typeOf_tame e) fun _ => .ite (.pure ()) (.failAt _ _)

theorem subPicture_tame (picture posX posY : Expr) :
    Tame noRecord (subPicture picture posX posY) := by
  refine .bind (requirePresent_tame _ _) fun _ => .bind (requirePresent_tame _ _) fun _ => ?_
  refine .bind (requirePresent_tame _ _) fun _ => .bind (.singleton _) fun _ => .ite (.fail _) ?_
  refine .bind (requireInteger_tame _ _) fun _ => .bind (requireInteger_tame _ _) fun _ => ?_
  refine .bind (nonEmptyText_tame _ _) fun _ => .bind (picturePath_tame _) fun _ => ?_
  refine .bind .host fun _ => .bind (remarkIf_tame _ _) fun _ => ?_
  exact .bind (integer_tame posX) fun _ => .bind (integer_tame posY) fun _ => .write rfl

theorem firstValue_tame (d : Declaration) (type : ValueType) : Tame P (firstValue d type) := by
  unfold firstValue
  split
  · exact defaultValue_tame _ _
  · exact .ite (.pure _) (.fail _)

theorem declaration_tame (d : Declaration) : Tame noRecord (declaration d) := by
  refine .bind (requireIdentifier_tame _ _) fun _ => ?_
  split
  · exact .fail _
  · refine .bind (.lookup _) fun bound => ?_
    cases bound with
    | some existing =>
      exact .ite (.fail _) (.bind (.declare rfl) fun _ => .remark _)
    | none => exact .bind (firstValue_tame d _) fun _ => .bind (.declare rfl) fun _ => .pure ()

theorem requireScalar_tame (name : String) : Tame P (requireScalar name) := by
  refine .bind (.lookup name) fun bound => ?_
  cases bound with
  | none => exact .remark _
  | some existing => exact .ite (.pure ()) (.fail _)

theorem invalidation_tame (name : String) : Tame noRecord (invalidation name) := by
  refine .bind (requireIdentifier_tame _ _) fun _ => .bind (requireScalar_tame name) fun _ => ?_
  exact .bind (.write rfl) fun _ => .remark _

theorem assignableTypes_tame (text : String) (lhs rhs : ValueType) :
    Tame P (assignableTypes text lhs rhs) := by
  refine .ite (.pure ()) ?_
  split
  · exact .pure ()
  · exact .remark _
  · exact .fail _

theorem assignment_tame (lhs rhs : Expr) (id : Int) : Tame anyWrite (assignment lhs rhs id) := by
  refine .bind (requirePresent_tame _ _) fun _ => .bind (requirePresent_tame _ _) fun _ => ?_
  refine .ite (.bind (scriptText_tame lhs) fun _ => .failAt _ _) ?_
  refine .bind (typeOf_tame lhs) fun _ => .bind (typeOf_tame rhs) fun _ => ?_
  refine .bind (scriptText_tame lhs) fun _ => .bind (assignableTypes_tame _ _ _) fun _ => ?_
  refine .bind (scriptText_tame rhs) fun _ => .bind .branchAround fun _ => ?_
  exact .bind (.eval (.orBreak _)) fun _ => .write trivial

theorem bareExpression_tame (e : Expr) : Tame P (bareExpression e) :=
  .bind (requirePresent_tame _ _) fun _ => .bind (typeOf_tame e) fun _ => .pure ()

/-! ## Actions and conditions -/

/-- Whether an action is an assignment, which sets a record. -/
def setsRecord : Action → Bool
  | .assign .. => true
  | _ => false

/-- Only an assignment sets a record. -/
theorem action_noRecord {a : Action} (h : setsRecord a = false) : Tame noRecord (action a) := by
  cases a with
  | declare d => exact declaration_tame d
  | configure c => exact configuration_tame c
  | globalPicture picture => exact globalPicture_tame picture
  | subPicture picture posX posY => exact subPicture_tame picture posX posY
  | showParam p => exact shownParam_tame p
  | checkbox p => exact checkboxParam_tame p
  | userInput p => exact inputParam_tame p
  | radio p => exact radioParam_tame p
  | select s => exact selection_tame s
  | table t => exact selectionTable_tame t
  | invalidate name => exact invalidation_tame name
  | assign lhs rhs id => cases h
  | evaluate e => exact bareExpression_tame e

theorem action_tame (a : Action) : Tame anyWrite (action a) := by
  cases a with
  | assign lhs rhs id => exact assignment_tame lhs rhs id
  | _ => exact (action_noRecord rfl).mono fun _ _ => trivial

theorem condition_tame (branch : Nat) (e : Expr) : Tame noWrite (condition branch e) :=
  .bind (requirePresent_tame _ _) fun _ => .bind (typeOf_tame e) fun _ =>
    .ite (.pure ()) (.failAt _ _)

end DialogScript.Check
