import DialogScript.Data.Coerce
import DialogScript.Tree.LoadError

/-!
Building trees from plain data. A node is a mapping that names its class under `node` and gives its
fields, which are converted in the order in which they are written. A bare scalar stands for the
literal of its type, and `line` for the place of a node. Conditionals and assignments without a
number are numbered in document order.
-/

namespace DialogScript

/-- A built node of any family. -/
inductive Node where
  | expr (e : Expr)
  | command (c : Command)
  | branch (b : Branch)
  | block (b : Block)
  | script (s : Script)

/-- The converted content of a field. -/
inductive FieldValue where
  | nothing
  | whole (n : Whole)
  | real (x : Float)
  | text (s : String)
  | truth (b : Bool)
  | operator (op : Operator)
  | subtype (t : ParamSubtype)
  | variableKind (k : VariableKind)
  | blockKind (k : BlockKind)
  | span (data : Data)
  | texts (items : List String)
  | node (n : Node)
  | nodes (items : List Node)
  | rows (rows : List (List Expr))

namespace Tree

/-- What a tree is loaded under: the name of its file, and the name of a variable that marks an
empty slot, if there is one. -/
structure Source where
  file : Option String := none
  emptySlot : Option String := none

/-- The numbers that the next conditional and the next assignment get. -/
structure Numbering where
  conditional : Int := 1
  assignment : Int := 1

/-- Loading numbers nodes as it goes and stops at the first failure. -/
abbrev Load : Type → Type := StateT Numbering (Except LoadFailure)

/-- Refuses the data. There is no refusal if the data that its text shows cannot be written. -/
def refuse {α : Type} (e : LoadError) : Load α :=
  throw (if e.shown.isWritable then .refused e else .broken .longIntegerText)

/-- Passes a breakdown on. -/
def orBreak {α : Type} : Except Breakdown α → Load α
  | .ok a => pure a
  | .error b => throw (.broken b)

/-! ## Single fields -/

/-- The choice that data names, by one of the names of a choice in any case. -/
def choice {α : Type} (type : String) (all : List α) (names : α → List String) (place : String)
    (data : Data) : Load α :=
  let wanted := Text.upper (Text.trim data.plain)
  match all.find? fun a => (names a).contains wanted with
  | some a => pure a
  | none => refuse (.invalidChoice place type data)

/-- An operator, by its spelling, its name or its place in the table. -/
def operator : String → Data → Load Operator :=
  choice "TokenType" Operator.all fun op => [op.symbol, op.name, toString op.number]

/-- A parameter subtype. -/
def subtype : String → Data → Load ParamSubtype :=
  choice "ParamSubtype" ParamSubtype.all fun t => [t.name, t.spelling]

/-- A variable kind. -/
def variableKind : String → Data → Load VariableKind :=
  choice "VariableKind" VariableKind.all fun k => [k.name]

/-- A kind of block. -/
def blockKind : String → Data → Load BlockKind :=
  choice "BlockKind" BlockKind.all fun k => [k.name]

/-- A text. -/
def text (place : String) : Data → Load String
  | .text s => pure s
  | data => refuse (.fieldShape place "str" data)

/-- A flag. -/
def truth (place : String) : Data → Load Bool
  | .bool b => pure b
  | data => refuse (.fieldShape place "bool" data)

/-- A whole number or a truth value. -/
def whole (place : String) : Data → Load Whole
  | .int n => pure (.number n)
  | .bool b => pure (.truth b)
  | data => refuse (.fieldShape place "int" data)

/-- A double; a whole number is rounded to one. -/
def real (place : String) : Data → Load Float
  | .real x => pure x
  | .int n => orBreak (Number.toDouble n)
  | data => refuse (.fieldShape place "float" data)

/-- A list of texts; null is the empty list. -/
def texts (place : String) : Data → Load (List String)
  | .null => pure []
  | .list items => items.mapM (text place)
  | data => refuse (.notAList place data)

/-- A field that may be null. -/
def optional {α : Type} (load : Data → Load α) (wrap : α → FieldValue) : Data → Load FieldValue
  | .null => pure .nothing
  | data => wrap <$> load data

/-- The literal that a bare scalar stands for. -/
def literal : Data → Load Expr
  | .bool b => pure (.literal none (.bool b))
  | .int n => pure (.literal none (.integer (.number n)))
  | .real x => pure (.literal none (.double x))
  | .text s => pure (.literal none (.string s))
  | data => refuse (.notAnExpression data)

/-! ## Assembling nodes -/

/-- Converted fields under their names. -/
abbrev Fields : Type := List (String × FieldValue)

namespace Fields

variable (fields : Fields) (name : String)

/-- A text, empty where it is left out. -/
def text : String :=
  match fields.lookup name with
  | some (.text s) => s
  | _ => ""

/-- A flag, off where it is left out. -/
def flag : Bool :=
  match fields.lookup name with
  | some (.truth b) => b
  | _ => false

/-- A whole number. -/
def whole (default : Int) : Whole :=
  match fields.lookup name with
  | some (.whole n) => n
  | _ => .number default

/-- A double. -/
def real : Float :=
  match fields.lookup name with
  | some (.real x) => x
  | _ => 0.0

/-- Texts, none where they are left out. -/
def texts : List String :=
  match fields.lookup name with
  | some (.texts items) => items
  | _ => []

/-- An operator. -/
def operator : Operator :=
  match fields.lookup name with
  | some (.operator op) => op
  | _ => .plus

/-- A subtype, if one is given. -/
def subtype? : Option ParamSubtype :=
  match fields.lookup name with
  | some (.subtype t) => some t
  | _ => none

/-- A subtype that must be given. -/
def subtype : ParamSubtype := (fields.subtype? name).getD .int

/-- A variable kind. -/
def variableKind : VariableKind :=
  match fields.lookup name with
  | some (.variableKind k) => k
  | _ => .general

/-- A kind of block. -/
def blockKind : BlockKind :=
  match fields.lookup name with
  | some (.blockKind k) => k
  | _ => .asm

/-- An expression, absent where it is left out. -/
def expr : Expr :=
  match fields.lookup name with
  | some (.node (.expr e)) => e
  | _ => .absent

/-- The nodes of a list, none where they are left out. -/
def nodes : List Node :=
  match fields.lookup name with
  | some (.nodes items) => items
  | _ => []

/-- The expressions of a list. -/
def exprs : List Expr :=
  (fields.nodes name).filterMap fun | .expr e => some e | _ => none

/-- The commands of a list. -/
def commands : List Command :=
  (fields.nodes name).filterMap fun | .command c => some c | _ => none

/-- The branches of a list. -/
def branches : List Branch :=
  (fields.nodes name).filterMap fun | .branch b => some b | _ => none

/-- The blocks of a list. -/
def blocks : List Block :=
  (fields.nodes name).filterMap fun | .block b => some b | _ => none

/-- The rows of a table. -/
def rows : List (List Expr) :=
  match fields.lookup name with
  | some (.rows rows) => rows
  | _ => []

/-- The fields of a display. -/
def display : Display :=
  { tooltip := fields.expr "tooltip", image := fields.expr "image",
    onPicture := fields.flag "on_picture", posX := fields.expr "pos_x",
    posY := fields.expr "pos_y" }

/-- The fields of a selection. -/
def selection (target : SelectTarget) : Selection :=
  { target, types := fields.exprs "types", displayOrder := fields.expr "display_order",
    allowReselect := fields.flag "allow_reselect", filterModel := fields.expr "filter_mdl",
    filterFeature := fields.expr "filter_feat", filterGeometry := fields.expr "filter_geom",
    filterReference := fields.expr "filter_ref",
    filterIdentifier := fields.expr "filter_identifier",
    selectByBox := fields.flag "select_by_box", selectByMenu := fields.flag "select_by_menu",
    includeMultiCad := fields.expr "include_multi_cad", display := fields.display,
    tag := fields.expr "tag" }

/-- The span given as data, if it is not null. -/
def givenSpan : Option Span :=
  match fields.lookup "span" with
  | some (.span data) => some (.unread data)
  | _ => none

/-- Valid, unless the data says otherwise. -/
def status (span : Option Span) : Status :=
  match fields.lookup "semantic_valid" with
  | some (.truth b) => ⟨span, b⟩
  | _ => ⟨span, true⟩

end Fields

/-- A variable, or the empty slot where its name marks one. -/
def variableOrSlot (source : Source) (span : Option Span) (name : String) : Expr :=
  if source.emptySlot = some name then .absent else .named span name

/-- The node of a class with its fields. `id` numbers a conditional or an assignment that has no
number of its own. -/
def assemble (source : Source) (span : Option Span) (id : Int) (fields : Fields) :
    NodeClass → Node
  | .intLiteral => .expr (.literal span (.integer (fields.whole "value" 0)))
  | .doubleLiteral => .expr (.literal span (.double (fields.real "value")))
  | .stringLiteral => .expr (.literal span (.string (fields.text "value")))
  | .boolLiteral => .expr (.literal span (.bool (fields.flag "value")))
  | .constant => .expr (.constant span (fields.text "name") (fields.real "value"))
  | .variableRef => .expr (variableOrSlot source span (fields.text "name"))
  | .unaryOp => .expr (.unary span (fields.operator "operator") (fields.expr "operand"))
  | .binaryOp =>
    .expr (.binary span (fields.expr "left") (fields.operator "operator") (fields.expr "right"))
  | .functionCall => .expr (.call span (fields.text "name") (fields.exprs "args"))
  | .arrayIndex => .expr (.index span (fields.expr "base") (fields.expr "index"))
  | .mapLookup => .expr (.entry span (fields.expr "map") (fields.text "key"))
  | .structAccess => .expr (.member span (fields.expr "structure") (fields.text "member"))
  | .declareVariable =>
    action (.declare {
      name := fields.text "name", kind := fields.variableKind "var_kind",
      subtype := fields.subtype? "subtype", default := fields.expr "default" })
  | .configElem =>
    action (.configure {
      noTables := fields.flag "no_tables", noGui := fields.flag "no_gui",
      autoCommit := fields.flag "auto_commit", autoClose := fields.flag "auto_close",
      showGuiForExisting := fields.flag "show_gui_for_existing",
      noAutoUpdate := fields.flag "no_auto_update",
      continueOnCancel := fields.flag "continue_on_cancel",
      hasScreenLocation := fields.flag "has_screen_location",
      location := fields.expr "location", width := fields.expr "width",
      height := fields.expr "height" })
  | .globalPicture => action (.globalPicture (fields.expr "picture"))
  | .subPicture =>
    action (.subPicture (fields.expr "picture") (fields.expr "pos_x") (fields.expr "pos_y"))
  | .showParam =>
    action (.showParam {
      name := fields.text "name", subtype := fields.subtype "subtype",
      display := fields.display })
  | .checkboxParam =>
    action (.checkbox {
      name := fields.text "name", subtype := fields.subtype "subtype",
      required := fields.flag "required", displayOrder := fields.expr "display_order",
      display := fields.display, tag := fields.expr "tag" })
  | .userInputParam =>
    action (.userInput {
      name := fields.text "name", subtype := fields.subtype "subtype",
      default := fields.expr "default", defaultFor := fields.texts "default_for",
      width := fields.expr "width", decimalPlaces := fields.expr "decimal_places",
      model := fields.expr "model", required := fields.flag "required",
      noUpdate := fields.flag "no_update", displayOrder := fields.expr "display_order",
      minValue := fields.expr "min_value", maxValue := fields.expr "max_value",
      display := fields.display })
  | .radioButtonParam =>
    action (.radio {
      name := fields.text "name", subtype := fields.subtype "subtype",
      options := fields.exprs "options", required := fields.flag "required",
      displayOrder := fields.expr "display_order", display := fields.display })
  | .selectCommand => action (.select (fields.selection .unspecified))
  | .userSelect => action (.select (fields.selection (.one (fields.text "reference") true)))
  | .userSelectOptional =>
    action (.select (fields.selection (.one (fields.text "reference") false)))
  | .userSelectMultiple =>
    action (.select (fields.selection (.many (fields.text "array") (fields.expr "max_sel") true)))
  | .userSelectMultipleOptional =>
    action (.select (fields.selection (.many (fields.text "array") (fields.expr "max_sel") false)))
  | .beginTable =>
    action (.table {
      identifier := fields.text "identifier", name := fields.expr "name",
      options := fields.exprs "options", selStrings := fields.exprs "sel_strings",
      dataTypes := fields.exprs "data_types", rows := fields.rows "rows",
      noAutosel := fields.flag "no_autosel", noFilter := fields.flag "no_filter",
      dependOnInput := fields.flag "depend_on_input",
      invalidateOnUnselect := fields.flag "invalidate_on_unselect",
      showAutosel := fields.flag "show_autosel", filterRigid := fields.flag "filter_rigid",
      array := fields.flag "array", filterOnlyColumn := fields.whole "filter_only_column" (-1),
      filterColumn := fields.whole "filter_column" (-1),
      tableHeight := fields.whole "table_height" 12 })
  | .invalidateParam => action (.invalidate (fields.text "name"))
  | .assignment =>
    action (.assign (fields.expr "lhs") (fields.expr "rhs") (fields.whole "assign_id" id).toInt)
  | .ifBranch => .branch (.mk span (fields.expr "condition") (fields.commands "commands"))
  | .ifCommand =>
    .command (.conditional (fields.status span) (fields.branches "branches")
      (fields.commands "else_commands") (fields.whole "if_id" id).toInt)
  | .forCommand =>
    .command (.forLoop (fields.status span) (fields.text "loop_var") (fields.text "option")
      (fields.exprs "args") (fields.commands "commands"))
  | .whileCommand =>
    .command (.whileLoop (fields.status span) (fields.expr "condition")
      (fields.commands "commands"))
  | .expressionCommand => action (.evaluate (fields.expr "expression"))
  | .block => .block ⟨fields.blockKind "kind", fields.commands "commands", span⟩
  | .script =>
    let filename := match fields.lookup "filename" with
      | some (.text s) => .text s
      | _ => .null
    .script ⟨fields.blocks "blocks", filename, span⟩
where
  action (a : Action) : Node := .command (.action (fields.status span) a)

/-! ## Nodes -/

/-- The class that a mapping names, if it may stand here. -/
def nodeClass (expected : NodeFamily) (entries : List (String × Data)) : Load NodeClass :=
  match entries.lookup "node" with
  | none => refuse (.notANode expected (.dict entries))
  | some (.text s) =>
    match NodeClass.ofName? s with
    | none => refuse (.unknownClass (.text s))
    | some c => if c.fits expected then pure c else refuse (.misplaced c expected)
  | some (.list items) => throw (.broken (.unhashable (Data.list items).shape))
  | some (.dict items) => throw (.broken (.unhashable (Data.dict items).shape))
  | some data => refuse (.unknownClass data)

/-- The counter of a class. -/
def Numbering.get (n : Numbering) (c : NodeClass) : Int :=
  if c = .ifCommand then n.conditional else n.assignment

/-- The counters after a node of a class has got a number: the next number is above it and above all
numbers given before. -/
def Numbering.used (n : Numbering) (c : NodeClass) (id : Int) : Numbering :=
  if c = .ifCommand then { n with conditional := max n.conditional id + 1 }
  else { n with assignment := max n.assignment id + 1 }

/-- The number of a conditional or an assignment: its own, or the next one. -/
def number (c : NodeClass) (entries : List (String × Data)) : Load Int :=
  match c.idField? with
  | none => pure 0
  | some field => do
    let counters ← get
    let id ← match (entries.lookup field).getD .null with
      | .null => pure (counters.get c)
      | .int n => pure n
      | data => refuse (.fieldShape (c.name ++ "." ++ field) "int" data)
    set (counters.used c id)
    pure id

/-- The keys of a mapping that are no fields. -/
def reserved : List String := ["node", "line", "filename"]

/-- The span of a node: its line, or else what its field says. -/
def nodeSpan (source : Source) (entries : List (String × Data)) (fields : Fields) :
    Load (Option Span) :=
  match entries.lookup "line" with
  | some data => do
    let line ← orBreak data.toInteger
    pure (some (.atLine line source.file))
  | none => pure fields.givenSpan

mutual

/-- The node that data describes. -/
def node (source : Source) (expected : NodeFamily) : Data → Load Node
  | .dict entries => do
    let c ← nodeClass expected entries
    let id ← number c entries
    let fields ← fieldsOf source c entries
    let span ← nodeSpan source entries fields
    match c.missing (fields.map Prod.fst) with
    | [] => pure (assemble source span id fields c)
    | names => refuse (.missingFields c names)
  | data =>
    if expected = .expression then Node.expr <$> literal data else refuse (.notANode expected data)

/-- The fields of a mapping, converted in the order in which they stand. -/
def fieldsOf (source : Source) (c : NodeClass) : List (String × Data) → Load Fields
  | [] => pure []
  | (key, raw) :: rest =>
    if reserved.contains key then fieldsOf source c rest
    else do
      let place := c.name ++ "." ++ key
      let value ← match (c.field? key).map NodeField.type with
        | none => refuse (.unknownField c key)
        | some .whole => FieldValue.whole <$> whole place raw
        | some .real => FieldValue.real <$> real place raw
        | some .text => FieldValue.text <$> text place raw
        | some .truth => FieldValue.truth <$> truth place raw
        | some .operator => FieldValue.operator <$> operator place raw
        | some .subtype => FieldValue.subtype <$> subtype place raw
        | some .variableKind => FieldValue.variableKind <$> variableKind place raw
        | some .blockKind => FieldValue.blockKind <$> blockKind place raw
        | some .optionalSubtype => optional (subtype place) FieldValue.subtype raw
        | some .optionalText => optional (text place) FieldValue.text raw
        | some .texts => FieldValue.texts <$> texts place raw
        | some .span => optional pure FieldValue.span raw
        | some .expression => FieldValue.node <$> node source .expression raw
        | some .optionalExpression =>
          if raw.isNull then pure .nothing else FieldValue.node <$> node source .expression raw
        | some .expressions => FieldValue.nodes <$> nodeList source .expression place raw
        | some .commands => FieldValue.nodes <$> nodeList source .command place raw
        | some .branches => FieldValue.nodes <$> nodeList source .branch place raw
        | some .blocks => FieldValue.nodes <$> nodeList source .block place raw
        | some .expressionRows => FieldValue.rows <$> rowList source place raw
      let others ← fieldsOf source c rest
      pure ((key, value) :: others)

/-- A list of nodes; null is the empty list. -/
def nodeList (source : Source) (expected : NodeFamily) (place : String) : Data → Load (List Node)
  | .null => pure []
  | .list items => nodes source expected items
  | data => refuse (.notAList place data)

/-- The nodes that the items of a list describe. -/
def nodes (source : Source) (expected : NodeFamily) : List Data → Load (List Node)
  | [] => pure []
  | item :: rest => do
    let n ← node source expected item
    let others ← nodes source expected rest
    pure (n :: others)

/-- The rows of a table; null is the empty list. -/
def rowList (source : Source) (place : String) : Data → Load (List (List Expr))
  | .null => pure []
  | .list items => rows source place items
  | data => refuse (.notAList place data)

/-- Each row of a table. -/
def rows (source : Source) (place : String) : List Data → Load (List (List Expr))
  | [] => pure []
  | item :: rest => do
    let r ← row source place item
    let others ← rows source place rest
    pure (r :: others)

/-- The cells of a row; null is the empty row. -/
def row (source : Source) (place : String) : Data → Load (List Expr)
  | .null => pure []
  | .list items => cells source items
  | data => refuse (.notAList place data)

/-- Each cell of a row; null is an empty cell. -/
def cells (source : Source) : List Data → Load (List Expr)
  | [] => pure []
  | item :: rest => do
    let cell ← if item.isNull then pure .absent else do
      match ← node source .expression item with
      | .expr e => pure e
      | _ => pure .absent
    let others ← cells source rest
    pure (cell :: others)

end

/-! ## Scripts -/

/-- The commands that items of a block describe. -/
def blockCommands (source : Source) (items : List Data) : Load (List Command) := do
  let built ← items.mapM (node source .command)
  pure (built.filterMap fun | .command c => some c | _ => none)

/-- A block of a script. -/
def block (source : Source) (data : Data) : Load Block :=
  match data.get? "kind" with
  | none => refuse (.notABlock data)
  | some kind => do
    let kind ← blockKind "block.kind" kind
    let items ← orBreak ((data.get? "commands").getD .null).toItems
    let commands ← blockCommands source items
    pure { kind, commands }

/-- The script that data describes. -/
def scriptOf (source : Source) (data : Data) : Load Script :=
  match data.get? "blocks" with
  | none => refuse .notAScript
  | some blocks => do
    let items ← orBreak blocks.toItems
    let blocks ← items.mapM (block source)
    pure { blocks, filename := (data.get? "filename").getD (.ofText? source.file) }

/-- Loads a script, numbering from one. -/
def loadScript (source : Source) (data : Data) : Except LoadFailure Script :=
  Prod.fst <$> (scriptOf source data).run {}

/-- Loads a single node of any family, numbering from one. -/
def loadNode (source : Source) (data : Data) : Except LoadFailure Node :=
  Prod.fst <$> (node source .any data).run {}

end Tree

end DialogScript
