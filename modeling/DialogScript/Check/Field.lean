import DialogScript.Check.Basic
import DialogScript.Tree.Command

/-!
Rules that several commands share: names and subtypes, the binding of parameters, and the fields of
a display.
-/

namespace DialogScript.Check

/-- The entries of an option map. -/
abbrev Options : Type := List (String × Value)

/-! ## Names and types -/

/-- A name in quotes, for messages. -/
def quote (name : String) : String := Problem.inQuotes name

/-- Requires an identifier. -/
def requireIdentifier (name field : String) : Check Unit := do
  let kind ← kind
  if name = "" then fail (.missingField kind field)
  else if isIdentifier name then pure ()
  else fail (.invalidIdentifier kind name)

/-- Requires one of some subtypes. -/
def requireSubtype (name : String) (subtype : ParamSubtype) (allowed : List ParamSubtype) :
    Check Unit := do
  let kind ← kind
  if subtype ∈ allowed then pure () else fail (.invalidSubtype kind name subtype allowed)

/-- Requires an expression in a slot. -/
def requirePresent (e : Expr) (field : String) : Check Unit := do
  let kind ← kind
  if e.isAbsent then fail (.missingField kind field) else pure ()

/-- Binds a parameter to `initial`. A bound one must have the same type; it keeps its value and is
counted once more. -/
def bindParameter (name : String) (type : ValueType) (initial : Value) : Check Unit := do
  let bound ← lookup name
  match bound with
  | none => do
    let _ ← declare name initial
    pure ()
  | some existing =>
    if existing.type ≠ type then fail (.redeclared name existing.type type)
    else do
      let kind ← kind
      let count ← declare name existing
      remark (.parameterExists name count kind)

/-- The default of a parameter, its zero where none is given. -/
def defaultValue (subtype : ParamSubtype) (e : Expr) : Check Value :=
  if e.isAbsent then pure (Value.zeroOf subtype.valueType)
  else
    match subtype with
    | .int => Value.integer <$> integer e
    | .bool => (fun n => Value.bool (n != 0)) <$> integer e
    | .double => Value.double <$> double e
    | .string => Value.string <$> text e

/-! ## Fields -/

/-- A text that is not empty. -/
def nonEmptyText (e : Expr) (what : String) : Check String := do
  let s ← text e
  if s = "" then do
    let kind ← kind
    fail (.emptyValue kind what)
  else pure s

/-- An entry for a field that may be left out. -/
def optionalEntry (e : Expr) (key : String) (read : Expr → Check Value) : Check Options :=
  if e.isAbsent then pure []
  else do
    let v ← read e
    pure [(key, v)]

/-- An entry for a flag that is on. -/
def flagEntry (on : Bool) (key : String) : Options := if on then [(key, .bool true)] else []

/-- The order in which a field is shown. -/
def displayOrder (e : Expr) : Check Options :=
  optionalEntry e "display_order" fun e => do
    let n ← integer e
    if n < 0 then do
      requireWritable [n]
      fail (.negative "DISPLAY_ORDER" n)
    else pure (.integer n)

/-- The tag of a field. -/
def tag (name : String) (e : Expr) : Check Options :=
  optionalEntry e "tag" fun e => Value.string <$> nonEmptyText e ("tag of " ++ quote name)

/-- Tooltip and image; an image needs a tooltip. -/
def tooltipAndImage (name : String) (d : Display) : Check Options := do
  let kind ← kind
  if !d.image.isAbsent && d.tooltip.isAbsent then fail (.imageWithoutTooltip kind name)
  else do
    let tooltip ← optionalEntry d.tooltip "tooltip" fun e =>
      Value.string <$> nonEmptyText e ("tooltip of " ++ quote name)
    let image ← optionalEntry d.image "image" fun e =>
      Value.string <$> nonEmptyText e ("image of " ++ quote name)
    pure (tooltip ++ image)

/-- The position on the picture: both coordinates, neither below zero. -/
def onPicture (name : String) (d : Display) : Check Options :=
  if !d.onPicture then pure []
  else do
    let kind ← kind
    if d.posX.isAbsent || d.posY.isAbsent then fail (.positionMissing kind name)
    else do
      let x ← integer d.posX
      let y ← integer d.posY
      if x < 0 ∨ y < 0 then do
        requireWritable [x, y]
        fail (.positionNegative kind name x y)
      else pure [("on_picture", .bool true), ("posX", .integer x), ("posY", .integer y)]

/-- The entries of a display. -/
def displayOptions (name : String) (d : Display) : Check Options := do
  let shown ← tooltipAndImage name d
  let placed ← onPicture name d
  pure (shown ++ placed)

/-- Stores the option map of a parameter. -/
def storeOptions (name : String) (options : Options) : Check Unit := do
  let kind ← kind
  write (.setOptions kind name (Value.mapOf options))
  remark (.optionsStored kind name)

/-- Marks a parameter as required. -/
def registerRequired (list : TrackedList) (name : String) : Check Unit := do
  write (.appendTracked list (.string name))
  remark (.required name list.name)

end DialogScript.Check
