import DialogScript.Check.Field

/-!
The dialog as a whole: its configuration, its main picture and the pictures on it.
-/

namespace DialogScript.Check

/-- A size of the dialog, which must be above zero. -/
def size (e : Expr) (what : String) : Check (Option Float) :=
  if e.isAbsent then pure none
  else do
    let x ← double e
    if x <= 0.0 then fail (.sizeNotPositive what x)
    else do
      remark (if x < 1.0 then .fractionalSize what x else .absoluteSize what x)
      pure (some x)

/-- The place of the dialog, which must be one of the host's. -/
def screenLocation (c : DialogConfig) : Check (Option String) :=
  if !c.hasScreenLocation then pure none
  else do
    requirePresent c.location "SCREEN_LOCATION option"
    let location ← nonEmptyText c.location "SCREEN_LOCATION"
    let host ← host
    if location ∈ host.screenLocations then pure (some location)
    else fail (.invalidLocation location host.screenLocations)

/-- The flags of the dialog under their keys. -/
def configFlags (c : DialogConfig) : Options :=
  [("no_tables", .bool c.noTables), ("no_gui", .bool c.noGui),
    ("auto_commit", .bool c.autoCommit), ("auto_close", .bool c.autoClose),
    ("show_gui_for_existing", .bool c.showGuiForExisting),
    ("no_auto_update", .bool c.noAutoUpdate),
    ("continue_on_cancel", .bool c.continueOnCancel),
    ("has_screen_location", .bool c.hasScreenLocation)]

/-- An entry for a value that may be missing. -/
def presentEntry {α : Type} (key : String) (wrap : α → Value) : Option α → Options
  | some a => [(key, wrap a)]
  | none => []

/-- `CONFIG_ELEM`: sets the dialog's configuration, once. -/
def configuration (c : DialogConfig) : Check Unit := do
  let set ← singleton .configElem
  if set.isSome then fail (.repeatedCommand .configElem)
  else do
    let width ← size c.width "width"
    let height ← size c.height "height"
    if height.isSome && width.isNone then fail .heightWithoutWidth
    else do
      let location ← screenLocation c
      let entries := configFlags c ++ presentEntry "location_option" Value.string location
        ++ presentEntry "width" Value.double width ++ presentEntry "height" Value.double height
      write (.setSingleton .configElem (Value.mapOf entries))

/-- The path of a picture: one that is not rooted stands under the base directory, if that is
bound. -/
def picturePath (file : String) : Check String := do
  let host ← host
  let base ← lookup host.baseDirectory
  match base with
  | some (.string base) => pure (if Path.isRooted file then file else base ++ file)
  | _ => pure file

/-- `GLOBAL_PICTURE`: sets the main picture, once. -/
def globalPicture (picture : Expr) : Check Unit := do
  requirePresent picture "picture"
  let set ← singleton .globalPicture
  if set.isSome then fail (.repeatedCommand .globalPicture)
  else do
    let file ← nonEmptyText picture "picture file name"
    let path ← picturePath file
    write (.setSingleton .globalPicture (.string path))
    remark (.globalPicture path)

/-- Requires an expression of integer type. -/
def requireInteger (label : String) (e : Expr) : Check Unit := do
  let found ← typeOf e
  if found = .integer then pure ()
  else failAt (.typeMismatch label ValueType.integer.name found.name) e.span

/-- `SUB_PICTURE`: puts a picture on the main one. Positions may be negative. -/
def subPicture (picture posX posY : Expr) : Check Unit := do
  requirePresent picture "picture"
  requirePresent posX "pos_x"
  requirePresent posY "pos_y"
  let main ← singleton .globalPicture
  if main.isNone then
    fail (.missingPrerequisite .subPicture .globalPicture)
  else do
    requireInteger "POS_X" posX
    requireInteger "POS_Y" posY
    let file ← nonEmptyText picture "picture file name"
    let path ← picturePath file
    let host ← host
    remarkIf (!host.supportsImage path) (.unsupportedImage path)
    let x ← integer posX
    let y ← integer posY
    write (.appendTracked .subPictures
      (Value.mapOf [("path", .string path), ("posX", .integer x), ("posY", .integer y)]))

end DialogScript.Check
