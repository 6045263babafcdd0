import DialogScript.Check.Field

/-!
Dialog parameters. Each command binds its parameter, or finds it bound with the same type, and
stores an option map where it gives any option.
-/

namespace DialogScript.Check

/-- The subtypes of a choice. -/
def choiceSubtypes : List ParamSubtype := [.int, .bool]

/-- The subtypes with a range. -/
def rangeSubtypes : List ParamSubtype := [.int, .double]

/-- `SHOW_PARAM`: shows a parameter. -/
def shownParam (p : ShownParam) : Check Unit := do
  requireIdentifier p.name "name"
  requireSubtype p.name p.subtype ParamSubtype.all
  bindParameter p.name p.subtype.valueType (Value.zeroOf p.subtype.valueType)
  if p.display.isGiven then do
    let options ← displayOptions p.name p.display
    storeOptions p.name options
  else pure ()

/-- `CHECKBOX_PARAM`: a choice between two states. -/
def checkboxParam (p : CheckboxParam) : Check Unit := do
  requireIdentifier p.name "name"
  requireSubtype p.name p.subtype choiceSubtypes
  bindParameter p.name p.subtype.valueType (Value.zeroOf p.subtype.valueType)
  if p.required || !p.displayOrder.isAbsent || p.display.isGiven || !p.tag.isAbsent then do
    let order ← displayOrder p.displayOrder
    let shown ← displayOptions p.name p.display
    let tag ← tag p.name p.tag
    storeOptions p.name ([("required", .bool p.required)] ++ order ++ shown ++ tag)
    if p.required then registerRequired .requiredCheckboxes p.name else pure ()
  else pure ()

/-! ## Input fields -/

/-- What an input field is bound to. The default of a bound one is not evaluated. -/
def inputValue (p : InputParam) : Check Value := do
  let bound ← isBound p.name
  if bound then pure (Value.zeroOf p.subtype.valueType) else defaultValue p.subtype p.default

/-- Binds an input field. -/
def bindInput (p : InputParam) : Check Unit := do
  let initial ← inputValue p
  bindParameter p.name p.subtype.valueType initial

/-- Checks the parameters that a default is meant for. -/
def defaultTargets (name : String) : List String → Check Unit
  | [] => pure ()
  | target :: rest => do
    let kind ← kind
    if !isIdentifier target then fail (.invalidIdentifier kind target)
    else do
      let bound ← isBound target
      remarkIf (!bound) (.defaultForUndeclared name target)
      defaultTargets name rest

/-- The parameters that a default is meant for. -/
def defaultFor (p : InputParam) : Check Options :=
  if p.defaultFor.isEmpty then pure []
  else do
    defaultTargets p.name p.defaultFor
    pure [("default_for", Value.strings p.defaultFor)]

/-- The width of an input field, which must be above zero. -/
def inputWidth (p : InputParam) : Check Options :=
  optionalEntry p.width "width" fun e => do
    let x ← double e
    if x <= 0.0 then fail (.widthNotPositive p.name) else pure (.double x)

/-- The decimal places of an input field for doubles, which must not be below zero. -/
def decimalPlaces (p : InputParam) : Check Options :=
  optionalEntry p.decimalPlaces "decimal_places" fun e => do
    requireSubtype p.name p.subtype [.double]
    let x ← double e
    if x < 0.0 then fail (.placesNegative p.name) else pure (.double x)

/-- A bound of the range of an input field. -/
def inputBound (e : Expr) : Check (Option Float) :=
  if e.isAbsent then pure none else some <$> double e

/-- The range of an input field for numbers, which must not be empty. -/
def inputRange (p : InputParam) : Check Options :=
  if p.minValue.isAbsent && p.maxValue.isAbsent then pure []
  else do
    requireSubtype p.name p.subtype rangeSubtypes
    let least ← inputBound p.minValue
    let greatest ← inputBound p.maxValue
    match least, greatest with
    | some a, some b =>
      if b < a then fail (.emptyRange p.name a b)
      else pure [("min_value", .double a), ("max_value", .double b)]
    | some a, none => pure [("min_value", .double a)]
    | none, some b => pure [("max_value", .double b)]
    | none, none => pure []

/-- `USER_INPUT_PARAM`: a parameter that is typed in. -/
def inputParam (p : InputParam) : Check Unit := do
  requireIdentifier p.name "name"
  requireSubtype p.name p.subtype ParamSubtype.all
  bindInput p
  if p.hasOptions then do
    let targets ← defaultFor p
    let width ← inputWidth p
    let places ← decimalPlaces p
    let model ← optionalEntry p.model "model" fun e =>
      Value.string <$> nonEmptyText e ("model of " ++ quote p.name)
    let order ← displayOrder p.displayOrder
    let range ← inputRange p
    let shown ← displayOptions p.name p.display
    storeOptions p.name
      ([("required", .bool p.required), ("no_update", .bool p.noUpdate)] ++ targets ++ width
        ++ places ++ model ++ order ++ range ++ shown)
  else pure ()

/-! ## Radio groups -/

/-- The labels of a radio group from one place on. -/
def optionLabels (name : String) (place : Nat) : List Expr → Check (List String)
  | [] => pure []
  | e :: rest => do
    let label ← nonEmptyText e ("option " ++ toString place ++ " of " ++ quote name)
    let others ← optionLabels name (place + 1) rest
    pure (label :: others)

/-- The options of a radio group. -/
def radioOptions (p : RadioParam) : Check Options :=
  if p.options.isEmpty then pure []
  else do
    let labels ← optionLabels p.name 0 p.options
    pure [("options", Value.strings labels)]

/-- `RADIOBUTTON_PARAM`: a parameter that takes the index of a chosen option. -/
def radioParam (p : RadioParam) : Check Unit := do
  requireIdentifier p.name "name"
  requireSubtype p.name p.subtype choiceSubtypes
  if p.subtype = .bool ∧ 2 < p.options.length then fail (.tooManyOptions p.name)
  else do
    bindParameter p.name p.subtype.valueType (Value.zeroOf p.subtype.valueType)
    remarkIf (p.options.length < 2) (.fewOptions p.name)
    if p.required || !p.displayOrder.isAbsent || p.display.isGiven
        || !p.options.isEmpty then do
      let options ← radioOptions p
      let order ← displayOrder p.displayOrder
      let shown ← displayOptions p.name p.display
      storeOptions p.name (options ++ [("required", .bool p.required)] ++ order ++ shown)
      if p.required then registerRequired .requiredRadios p.name else pure ()
    else pure ()

end DialogScript.Check
