import DialogScript.Check.Field

/-!
Selection tables: a header of column names, a row of data types, and rows of cells. A checked table
is bound as a map with its rows.
-/

namespace DialogScript.Check

/-- The key of the first column. -/
def selectionColumn : String := "SEL_STRING"

/-- What stands in a cell that holds no value. -/
def noValue : String := "NO_VALUE"

/-- The column types whose cells may name what is declared later. -/
def forwardTypes : List String := ["SUBTABLE", "SUBCOMP"]

/-- The data types of the columns from one place on, in upper case, with their value types. -/
def columnTypes (place : Nat) : List Expr → Check (List (String × ValueType))
  | [] => pure []
  | e :: rest => do
    let s ← text e
    let name := Text.upper s
    let host ← host
    match host.columnType? name with
    | none => fail (.invalidDataType name place)
    | some type => do
      let others ← columnTypes (place + 1) rest
      pure ((name, type) :: others)

/-- The texts of some expressions. -/
def texts : List Expr → Check (List String)
  | [] => pure []
  | e :: rest => do
    let s ← text e
    let others ← texts rest
    pure (s :: others)

/-- The name of a column: a name stands for itself. -/
def columnName : Expr → Check String
  | .named _ name => pure name
  | e => text e

/-- The key of a column. -/
def columnKey (e : Expr) : Check String := do
  let key ← columnName e
  if isIdentifier key then pure key
  else do
    let kind ← kind
    failAt (.invalidIdentifier kind key) e.span

/-- The keys of columns. -/
def columnKeys : List Expr → Check (List String)
  | [] => pure []
  | e :: rest => do
    let key ← columnKey e
    let others ← columnKeys rest
    pure (key :: others)

/-- Whether a cell holds no value by its form. -/
def isEmptyCell : Expr → Bool
  | .absent => true
  | .literal _ (.string s) => s = "" || s = noValue
  | .named _ name => name = noValue
  | _ => false

/-- The name that a cell refers to before it is declared. -/
def forwardName? (columnType : String) (cell : Expr) : Check (Option String) :=
  match cell with
  | .named _ name => do
    let bound ← isBound name
    pure (if columnType ∈ forwardTypes && !bound then some name else none)
  | _ => pure none

/-- A text that stands for a value: the empty text and the word for no value do not. -/
def textValue (s : String) : Option Value :=
  if s = "" ∨ s = noValue then none else some (.string s)

/-- The value of a filled cell in a column. The cell of a reference column holds a name. -/
def filledValue (row column : Nat) (columnType : String × ValueType) (cell : Expr) :
    Check (Option Value) := do
  let forward ← forwardName? columnType.1 cell
  match forward with
  | some name => do
    remark (.forwardReference name row column columnType.1)
    pure (some (.string name))
  | none =>
    match columnType.2 with
    | .integer => (fun n => some (.integer n)) <$> integer cell
    | .bool => (fun n => some (.bool (n != 0))) <$> integer cell
    | .double => (fun x => some (.double x)) <$> double cell
    | .string | .reference => textValue <$> text cell
    | _ =>
      failAt (.notEvaluable ("cell in row " ++ toString row ++ ", column " ++ toString column)
        columnType.1) cell.span

/-- The value of a cell in a column, if it holds one. -/
def cellValue (row column : Nat) (columnType : String × ValueType) (cell : Expr) :
    Check (Option Value) :=
  if isEmptyCell cell then pure none else filledValue row column columnType cell

/-- The cells of a row from one column on, put under the keys of their columns. -/
def rowCells (row column : Nat) (entries : List (String × Option Value)) :
    List (Expr × String × String × ValueType) → Check (List (String × Option Value))
  | [] => pure entries
  | (cell, key, columnType) :: rest => do
    let value ← cellValue row column columnType cell
    rowCells row (column + 1) (Keyed.put key value entries) rest

/-- The rows of a table from one place on. Every row has a cell for each column. -/
def tableRows (table : String) (keys : List String) (types : List (String × ValueType))
    (place : Nat) : List (List Expr) → Check (List Value)
  | [] => pure []
  | cells :: rest => do
    if cells.length ≠ keys.length then
      fail (.rowLength place table cells.length keys.length)
    else do
      let entries ← rowCells place 0 [] (cells.zip (keys.zip types))
      let others ← tableRows table keys types (place + 1) rest
      pure (.map entries :: others)

/-- The flags of a table under their keys. -/
def tableFlags (t : SelectionTable) : Options :=
  [("no_autosel", .bool t.noAutosel), ("no_filter", .bool t.noFilter),
    ("depend_on_input", .bool t.dependOnInput),
    ("invalidate_on_unselect", .bool t.invalidateOnUnselect),
    ("show_autosel", .bool t.showAutosel), ("filter_rigid", .bool t.filterRigid),
    ("array", .bool t.array)]

/-- An entry for a column number that is given; a negative one is not. -/
def columnNumber (key : String) (n : Whole) : Options :=
  if 0 ≤ n.toInt then [(key, .integer n.toInt)] else []

/-- Binds a table, in place of another binding if there is one. -/
def bindTable (name : String) (value : Value) : Check Unit := do
  let bound ← isBound name
  if bound then do
    write (.overwrite name value)
    remark (.tableReplaces name)
  else do
    let _ ← declare name value
    pure ()

/-- `BEGIN_TABLE`: binds a table under its identifier. -/
def selectionTable (t : SelectionTable) : Check Unit := do
  requireIdentifier t.identifier "identifier"
  let columns := t.columnCount
  if t.dataTypes.length ≠ columns then fail (.dataTypeCount t.dataTypes.length columns)
  else do
    let types ← columnTypes 0 t.dataTypes
    let options ← texts t.options
    if columns = 0 then fail (.noColumns t.identifier)
    else do
      let named ← columnKeys t.selStrings.tail
      let keys := selectionColumn :: named
      let rows ← tableRows t.identifier keys types 0 t.rows
      let name ← optionalEntry t.name "name" fun e => do
        let s ← text e
        pure (.string (if s = "" then t.identifier else s))
      bindTable t.identifier (Value.mapOf
        ([("rows", .array rows), ("columns", Value.strings keys),
          ("options", Value.strings options), ("table_height", .integer t.tableHeight.toInt)]
          ++ name ++ tableFlags t ++ columnNumber "filter_column" t.filterColumn
          ++ columnNumber "filter_only_column" t.filterOnlyColumn))

end DialogScript.Check
