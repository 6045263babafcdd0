import DialogScript.Check.Field

/-!
Selections of geometry. A single selection accepts reference types that the host does not know; a
selection of several refuses them.
-/

namespace DialogScript.Check

/-- Requires a target that is free, and types to select. -/
def takeTarget (s : Selection) (name field : String) : Check Unit := do
  requireIdentifier name field
  let bound ← isBound name
  if bound then fail (.alreadyDeclared name)
  else if s.types.isEmpty then do
    let kind ← kind
    fail (.missingField kind "TYPES")
  else pure ()

/-- The names of the selected types from one place on. Where the check is strict, the host must know
them. -/
def typeNames (strict : Bool) (place : Nat) : List Expr → Check (List String)
  | [] => pure []
  | e :: rest => do
    let what := "type " ++ toString place
    let found ← typeOf e
    if found ≠ .string then failAt (.typeMismatch what ValueType.string.name found.name) e.span
    else do
      let name ← nonEmptyText e what
      let host ← host
      let kind ← kind
      if strict && !host.knowsReference name then failAt (.unknownReference kind name) e.span
      else do
        let others ← typeNames strict (place + 1) rest
        pure (name :: others)

/-- The options of every selection. -/
def selectionOptions (s : Selection) (name : String) (required : Bool) (types : List String) :
    Check Options := do
  let host ← host
  let codes := types.map fun t => Value.integer (host.referenceCode t)
  let order ← displayOrder s.displayOrder
  let shown ← displayOptions name s.display
  let tag ← tag name s.tag
  pure ([("types", Value.strings types), ("allowed_types", .array codes),
    ("required", .bool required)] ++ order ++ flagEntry s.allowReselect "allow_reselect"
    ++ flagEntry s.selectByBox "select_by_box" ++ flagEntry s.selectByMenu "select_by_menu"
    ++ shown ++ tag)

/-- Notes the types that share the code of unknown ones. -/
def noteUnknown : List String → Check Unit
  | [] => pure ()
  | name :: rest => do
    let host ← host
    remarkIf (host.referenceCode name = host.unknownReference) (.unknownReference name)
    noteUnknown rest

/-- Binds the target of a selection and stores its options. -/
def bindSelection (name : String) (value : Value) (required : Bool) (options : Options) :
    Check Unit := do
  let _ ← declare name value
  storeOptions name options
  if required then registerRequired .requiredSelects name else pure ()

/-- `USER_SELECT`: a selection of one reference. -/
def singleSelection (s : Selection) (name : String) (required : Bool) : Check Unit := do
  takeTarget s name "reference"
  let types ← typeNames false 0 s.types
  noteUnknown types
  let options ← selectionOptions s name required types
  bindSelection name (.reference none) required options

/-- Whether a text switches on a selection across formats. -/
def isOn (s : String) : Bool := Text.upper (Text.trim s) ∈ ["TRUE", "1"]

/-- A filter is stored as its script text; it is evaluated when the dialog runs. -/
def filterEntry (e : Expr) (key : String) : Check Options :=
  optionalEntry e key fun e => Value.string <$> scriptText e

/-- `USER_SELECT_MULTIPLE`: a selection of several references. A negative bound is none. -/
def multipleSelection (s : Selection) (name : String) (maxSel : Expr) (required : Bool) :
    Check Unit := do
  takeTarget s name "array"
  let types ← typeNames true 0 s.types
  requirePresent maxSel "MAX_SEL"
  let bound ← integer maxSel
  let common ← selectionOptions s name required types
  let multiCad ← optionalEntry s.includeMultiCad "include_multi_cad" fun e =>
    (fun s => Value.bool (isOn s)) <$> text e
  let model ← filterEntry s.filterModel "filter_mdl"
  let feature ← filterEntry s.filterFeature "filter_feat"
  let geometry ← filterEntry s.filterGeometry "filter_geom"
  let reference ← filterEntry s.filterReference "filter_ref"
  let identifier ← optionalEntry s.filterIdentifier "filter_identifier" fun e =>
    Value.string <$> text e
  bindSelection name (.array []) required
    (common ++ [("max_sel", .integer bound)] ++ multiCad ++ model ++ feature ++ geometry
      ++ reference ++ identifier)
  requireWritable (if bound < 0 then [] else [bound])
  remark (.selectionBound name bound types.length)

/-- A selection by its target. One of no particular variant has no kind and is not checked. -/
def selection (s : Selection) : Check Unit :=
  match s.target with
  | .unspecified => pure ()
  | .one name required => singleSelection s name required
  | .many name maxSel required => multipleSelection s name maxSel required

end DialogScript.Check
