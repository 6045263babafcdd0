import DialogScript.Tree.Load

/-!
Trees as plain data: each node under the name of its class with every field, choices by name, ranges
as text and empty slots as null.
-/

namespace DialogScript

/-- A span as data: the text of a range, or its numbers if it has no text; plain data as it is. -/
def spanData : Option Span → Data
  | some (.unread data) => data
  | some (.between start stop) =>
    match (Span.between start stop).text with
    | .ok s => .text s
    | .error _ => .list ([start.line, start.column, stop.line, stop.column].map Data.int)
  | none => .null

/-- A node as data: its class, its fields, and its span. -/
def nodeData (c : NodeClass) (span : Option Span) (fields : List (String × Data)) : Data :=
  .dict (("node", .text c.name) :: fields ++ [("span", spanData span)])

/-- A literal as data. -/
def Literal.toData (span : Option Span) : Literal → Data
  | integer n => nodeData .intLiteral span [("value", n.toData)]
  | double x => nodeData .doubleLiteral span [("value", .real x)]
  | string s => nodeData .stringLiteral span [("value", .text s)]
  | bool b => nodeData .boolLiteral span [("value", .bool b)]

namespace Expr

mutual

/-- An expression as data. -/
def toData : Expr → Data
  | absent => .null
  | literal span value => value.toData span
  | constant span name value =>
    nodeData .constant span [("name", .text name), ("value", .real value)]
  | named span name => nodeData .variableRef span [("name", .text name)]
  | unary span op operand =>
    nodeData .unaryOp span [("operator", .text op.name), ("operand", toData operand)]
  | binary span left op right =>
    nodeData .binaryOp span
      [("left", toData left), ("operator", .text op.name), ("right", toData right)]
  | call span function args =>
    nodeData .functionCall span [("name", .text function), ("args", .list (allToData args))]
  | index span base i =>
    nodeData .arrayIndex span [("base", toData base), ("index", toData i)]
  | entry span map key => nodeData .mapLookup span [("map", toData map), ("key", .text key)]
  | member span struct name =>
    nodeData .structAccess span [("structure", toData struct), ("member", .text name)]

/-- Expressions as data. -/
def allToData : List Expr → List Data
  | [] => []
  | e :: rest => toData e :: allToData rest

end

/-- A list of expressions as one piece of data. -/
def listData (es : List Expr) : Data := .list (allToData es)

end Expr

/-- The fields of a display. -/
def Display.fields (d : Display) : List (String × Data) :=
  [("tooltip", d.tooltip.toData), ("image", d.image.toData), ("on_picture", .bool d.onPicture),
    ("pos_x", d.posX.toData), ("pos_y", d.posY.toData)]

namespace Action

/-- The fields of a selection. -/
def selectionFields (s : Selection) : List (String × Data) :=
  [("types", Expr.listData s.types), ("display_order", s.displayOrder.toData),
    ("allow_reselect", .bool s.allowReselect), ("filter_mdl", s.filterModel.toData),
    ("filter_feat", s.filterFeature.toData), ("filter_geom", s.filterGeometry.toData),
    ("filter_ref", s.filterReference.toData),
    ("filter_identifier", s.filterIdentifier.toData), ("select_by_box", .bool s.selectByBox),
    ("select_by_menu", .bool s.selectByMenu), ("include_multi_cad", s.includeMultiCad.toData),
    ("tag", s.tag.toData)] ++ s.display.fields

/-- The class and the fields of an action. -/
def listing : Action → NodeClass × List (String × Data)
  | declare d =>
    (.declareVariable, [("name", .text d.name), ("var_kind", .text d.kind.name),
      ("subtype", .ofText? (d.subtype.map ParamSubtype.name)), ("default", d.default.toData)])
  | configure c =>
    (.configElem, [("no_tables", .bool c.noTables), ("no_gui", .bool c.noGui),
      ("auto_commit", .bool c.autoCommit), ("auto_close", .bool c.autoClose),
      ("show_gui_for_existing", .bool c.showGuiForExisting),
      ("no_auto_update", .bool c.noAutoUpdate),
      ("continue_on_cancel", .bool c.continueOnCancel),
      ("has_screen_location", .bool c.hasScreenLocation), ("location", c.location.toData),
      ("width", c.width.toData), ("height", c.height.toData)])
  | globalPicture picture => (.globalPicture, [("picture", picture.toData)])
  | subPicture picture posX posY =>
    (.subPicture,
      [("picture", picture.toData), ("pos_x", posX.toData), ("pos_y", posY.toData)])
  | showParam p =>
    (.showParam, [("name", .text p.name), ("subtype", .text p.subtype.name)] ++ p.display.fields)
  | checkbox p =>
    (.checkboxParam, [("name", .text p.name), ("subtype", .text p.subtype.name),
      ("required", .bool p.required), ("display_order", p.displayOrder.toData),
      ("tag", p.tag.toData)] ++ p.display.fields)
  | userInput p =>
    (.userInputParam, [("name", .text p.name), ("subtype", .text p.subtype.name),
      ("default", p.default.toData), ("default_for", .list (p.defaultFor.map Data.text)),
      ("width", p.width.toData), ("decimal_places", p.decimalPlaces.toData),
      ("model", p.model.toData), ("required", .bool p.required),
      ("no_update", .bool p.noUpdate), ("display_order", p.displayOrder.toData),
      ("min_value", p.minValue.toData), ("max_value", p.maxValue.toData)] ++ p.display.fields)
  | radio p =>
    (.radioButtonParam, [("name", .text p.name), ("subtype", .text p.subtype.name),
      ("options", Expr.listData p.options), ("required", .bool p.required),
      ("display_order", p.displayOrder.toData)] ++ p.display.fields)
  | select s =>
    match s.target with
    | .unspecified => (.selectCommand, selectionFields s)
    | .one reference required =>
      (if required then .userSelect else .userSelectOptional,
        ("reference", .text reference) :: selectionFields s)
    | .many array maxSel required =>
      (if required then .userSelectMultiple else .userSelectMultipleOptional,
        ("array", .text array) :: ("max_sel", maxSel.toData) :: selectionFields s)
  | table t =>
    (.beginTable, [("identifier", .text t.identifier), ("name", t.name.toData),
      ("options", Expr.listData t.options), ("sel_strings", Expr.listData t.selStrings),
      ("data_types", Expr.listData t.dataTypes), ("rows", .list (t.rows.map Expr.listData)),
      ("no_autosel", .bool t.noAutosel), ("no_filter", .bool t.noFilter),
      ("depend_on_input", .bool t.dependOnInput),
      ("invalidate_on_unselect", .bool t.invalidateOnUnselect),
      ("show_autosel", .bool t.showAutosel), ("filter_rigid", .bool t.filterRigid),
      ("array", .bool t.array), ("filter_only_column", t.filterOnlyColumn.toData),
      ("filter_column", t.filterColumn.toData), ("table_height", t.tableHeight.toData)])
  | invalidate name => (.invalidateParam, [("name", .text name)])
  | assign lhs rhs id =>
    (.assignment, [("lhs", lhs.toData), ("rhs", rhs.toData), ("assign_id", .int id)])
  | evaluate expression => (.expressionCommand, [("expression", expression.toData)])

end Action

namespace Command

/-- A command as data, with its flag. -/
def commandData (c : NodeClass) (status : Status) (fields : List (String × Data)) : Data :=
  nodeData c status.span (("semantic_valid", .bool status.valid) :: fields)

mutual

/-- A command as data. -/
def toData : Command → Data
  | action status a => commandData a.listing.1 status a.listing.2
  | conditional status branches otherwise id =>
    commandData .ifCommand status [("branches", .list (branchesToData branches)),
      ("else_commands", .list (allToData otherwise)), ("if_id", .int id)]
  | forLoop status loopVar option args body =>
    commandData .forCommand status [("loop_var", .text loopVar), ("option", .text option),
      ("args", Expr.listData args), ("commands", .list (allToData body))]
  | whileLoop status condition body =>
    commandData .whileCommand status
      [("condition", condition.toData), ("commands", .list (allToData body))]

/-- Commands as data. -/
def allToData : List Command → List Data
  | [] => []
  | c :: rest => toData c :: allToData rest

/-- Branches as data. -/
def branchesToData : List Branch → List Data
  | [] => []
  | .mk span condition commands :: rest =>
    nodeData .ifBranch span
      [("condition", condition.toData), ("commands", .list (allToData commands))]
      :: branchesToData rest

end

end Command

/-- A block as data. -/
def Block.toData (b : Block) : Data :=
  nodeData .block b.span
    [("kind", .text b.kind.name), ("commands", .list (Command.allToData b.commands))]

/-- A script as data. -/
def Script.toData (s : Script) : Data :=
  nodeData .script s.span
    [("blocks", .list (s.blocks.map Block.toData)), ("filename", s.filename)]

/-- The class of a command. -/
def Command.nodeClass : Command → NodeClass
  | action _ a => a.listing.1
  | conditional .. => .ifCommand
  | forLoop .. => .forCommand
  | whileLoop .. => .whileCommand

/-- A node as data. -/
def Node.toData : Node → Data
  | expr e => e.toData
  | command c => c.toData
  | branch b => (Command.branchesToData [b]).headD .null
  | block b => b.toData
  | script s => s.toData

end DialogScript
