import DialogScript.Data.Coerce
import DialogScript.Keyed
import DialogScript.Path
import DialogScript.Text.LowerCase
import DialogScript.Text.UpperCase
import DialogScript.ValueType

/-!
The tables that the host of the dialogs owns: reference types, screen locations, picture formats and
the column types of tables.
-/

namespace DialogScript

open DialogScript.Text

/-- The host's tables. -/
structure HostConfig where
  referenceTypes : List (String × Int)
  screenLocations : List String
  imageExtensions : List String
  columnTypes : List (String × ValueType)
  unknownReference : Int := -1
  baseDirectory : String := "GIF_DIR"
  epsilon : Float := 1e-9

/-- Why host data is refused. -/
inductive HostError where
  /-- A column has a type that is no value type. -/
  | unknownColumnType (type : Data) (column : String)
  /-- There is no such file. -/
  | notFound (path : String)
  /-- A file does not hold a mapping. -/
  | notAMapping (path : String)
  /-- A file is written for another version. -/
  | unsupportedVersion (version path : String)
  /-- A file lacks sections. -/
  | missingSections (path : String) (sections : List String)

/-- The text of a refusal. -/
def HostError.message : HostError → String
  | unknownColumnType type column =>
    "Unknown value type '" ++ type.plain ++ "' for table column '" ++ column ++ "'"
  | notFound path => "Host data file not found: " ++ path
  | notAMapping path => "Invalid host data in " ++ path ++ ": expected mapping at root"
  | unsupportedVersion version path =>
    "Unsupported schema version '" ++ version ++ "' in " ++ path ++ ". Expected version 1.x"
  | missingSections path sections =>
    "Host data " ++ path ++ " missing required section(s): " ++ ", ".intercalate sections

/-- How reading host data fails. -/
inductive HostFailure where
  | refused (e : HostError)
  | broken (b : Breakdown)

namespace HostConfig

/-- The tables that come with the library. -/
def bundled : HostConfig where
  referenceTypes :=
    [("ASSEMBLY", 1), ("SURFACE", 5), ("EDGE", 6), ("CURVE", 11), ("AXIS", 21), ("PLANE", 32)]
  screenLocations := ["TOP_LEFT", "TOP_RIGHT", "BOTTOM_LEFT", "BOTTOM_RIGHT", "CENTER"]
  imageExtensions := [".gif", ".bmp", ".jpeg", ".jpg", ".png"]
  columnTypes :=
    [("STRING", .string), ("DOUBLE", .double), ("INTEGER", .integer), ("BOOL", .bool),
      ("SUBTABLE", .string), ("SUBCOMP", .reference), ("CONFIG_DELETE_IDS", .string),
      ("CONFIG_STATE", .bool)]

/-- The form in which a reference type is looked up. -/
def referenceKey (name : String) : String := upper (trim name)

/-- The code of a reference type; unknown ones share a code of their own. -/
def referenceCode (c : HostConfig) (name : String) : Int :=
  (c.referenceTypes.lookup (referenceKey name)).getD c.unknownReference

/-- Whether a reference type is in the host's table. -/
def knowsReference (c : HostConfig) (name : String) : Bool :=
  (c.referenceTypes.lookup (referenceKey name)).isSome

/-- Whether the host shows pictures of a file's format. -/
def supportsImage (c : HostConfig) (path : String) : Bool :=
  c.imageExtensions.contains (lower (Path.suffix path))

/-- The type of a table column. -/
def columnType? (c : HostConfig) (name : String) : Option ValueType := c.columnTypes.lookup name

/-! ## Reading host data -/

/-- Passes a breakdown on. -/
def orBreak {α : Type} : Except Breakdown α → Except HostFailure α
  | .ok a => .ok a
  | .error b => .error (.broken b)

/-- The entries of a section, none where it is absent or empty. -/
def sectionEntries (data : Data) (name : String) : Except HostFailure (List (String × Data)) :=
  match data.get? name with
  | none => .ok []
  | some (.dict entries) => .ok entries
  | some other =>
    if other.isFilled then .error (.broken (.noMember other.shape "items")) else .ok []

/-- The items of a section as texts. -/
def sectionTexts (data : Data) (name : String) : Except HostFailure (List String) := do
  let items ← orBreak ((data.get? name).getD .null).toItems
  orBreak (items.mapM Data.toText)

/-- Reads the codes of reference types. -/
def readReferences : List (String × Data) → List (String × Int) →
    Except HostFailure (List (String × Int))
  | [], known => .ok known
  | (name, code) :: rest, known => do
    let code ← orBreak code.toInteger
    readReferences rest (Keyed.put (upper name) code known)

/-- Reads the types of table columns. -/
def readColumns : List (String × Data) → List (String × ValueType) →
    Except HostFailure (List (String × ValueType))
  | [], known => .ok known
  | (name, type) :: rest, known => do
    let typeName ← orBreak type.toText
    match ValueType.ofName? (upper typeName) with
    | some t => readColumns rest (Keyed.put (upper name) t known)
    | none => .error (.refused (.unknownColumnType type name))

/-- Reads host tables from data. -/
def ofData (data : Data) : Except HostFailure HostConfig :=
  match data with
  | .dict _ => do
    let references ← sectionEntries data "reference_types"
    let referenceTypes ← readReferences references []
    let columns ← sectionEntries data "table_column_types"
    let columnTypes ← readColumns columns []
    let locations ← sectionTexts data "screen_locations"
    let extensions ← sectionTexts data "image_extensions"
    let unknownReference ←
      orBreak ((data.get? "unknown_reference_type").getD (.int (-1))).toInteger
    let baseDirectory ←
      orBreak ((data.get? "base_directory_symbol").getD (.text "GIF_DIR")).toText
    let epsilon ← orBreak ((data.get? "double_epsilon").getD (.real 1e-9)).toReal
    .ok { referenceTypes, columnTypes, screenLocations := locations.map upper,
          imageExtensions := extensions.map lower, unknownReference, baseDirectory, epsilon }
  | other => .error (.broken (.noMember other.shape "get"))

/-- The sections that a file of host data must have. -/
def requiredSections : List String := ["reference_types", "screen_locations", "image_extensions"]

/-- Reads the content of a file of host data, which must be for a first version and have all
required sections. -/
def ofFile (path : String) (content : Data) : Except HostFailure HostConfig :=
  match content with
  | .dict entries => do
    let version ← orBreak ((entries.lookup "schema_version").getD (.text "1.0")).toText
    if !version.startsWith "1." then .error (.refused (.unsupportedVersion version path))
    else
      match requiredSections.filter fun s => (entries.lookup s).isNone with
      | [] => ofData content
      | missing => .error (.refused (.missingSections path missing))
  | _ => .error (.refused (.notAMapping path))

end HostConfig

end DialogScript
