import DialogScript.Tree.Command

/-!
The node classes of serialized trees and their fields.
-/

namespace DialogScript

/-- The classes a node can name. -/
inductive NodeClass where
  | intLiteral | doubleLiteral | stringLiteral | boolLiteral | constant | variableRef | unaryOp
  | binaryOp | functionCall | arrayIndex | mapLookup | structAccess | declareVariable | configElem
  | globalPicture | subPicture | showParam | checkboxParam | userInputParam | radioButtonParam
  | selectCommand | userSelect | userSelectOptional | userSelectMultiple
  | userSelectMultipleOptional | beginTable | invalidateParam | assignment | ifBranch | ifCommand
  | forCommand | whileCommand | expressionCommand | block | script
  deriving DecidableEq, Repr

/-- The families of classes; a place of a tree may ask for one of them. -/
inductive NodeFamily where
  | any | expression | command | branch | block | script
  deriving DecidableEq, Repr

/-- The word for a family. -/
def NodeFamily.name : NodeFamily → String
  | any => "AstNode"
  | expression => "Expression"
  | command => "Command"
  | branch => "IfBranch"
  | block => "Block"
  | script => "Script"

/-- What a field holds. -/
inductive FieldType where
  | whole | real | text | truth | operator | subtype | variableKind | blockKind
  | optionalSubtype | optionalText | texts | expression | optionalExpression | expressions
  | expressionRows | commands | branches | blocks | span
  deriving DecidableEq, Repr

/-- A field of a node class. -/
structure NodeField where
  name : String
  type : FieldType
  required : Bool := false

namespace NodeClass

/-- Every class. -/
def all : List NodeClass :=
  [intLiteral, doubleLiteral, stringLiteral, boolLiteral, constant, variableRef, unaryOp, binaryOp,
    functionCall, arrayIndex, mapLookup, structAccess, declareVariable, configElem, globalPicture,
    subPicture, showParam, checkboxParam, userInputParam, radioButtonParam, selectCommand,
    userSelect, userSelectOptional, userSelectMultiple, userSelectMultipleOptional, beginTable,
    invalidateParam, assignment, ifBranch, ifCommand, forCommand, whileCommand, expressionCommand,
    block, script]

/-- The name under which a node gives its class. -/
def name : NodeClass → String
  | intLiteral => "IntLiteral"
  | doubleLiteral => "DoubleLiteral"
  | stringLiteral => "StringLiteral"
  | boolLiteral => "BoolLiteral"
  | constant => "Constant"
  | variableRef => "VariableRef"
  | unaryOp => "UnaryOp"
  | binaryOp => "BinaryOp"
  | functionCall => "FunctionCall"
  | arrayIndex => "ArrayIndex"
  | mapLookup => "MapLookup"
  | structAccess => "StructAccess"
  | declareVariable => "DeclareVariable"
  | configElem => "ConfigElem"
  | globalPicture => "GlobalPicture"
  | subPicture => "SubPicture"
  | showParam => "ShowParam"
  | checkboxParam => "CheckboxParam"
  | userInputParam => "UserInputParam"
  | radioButtonParam => "RadioButtonParam"
  | selectCommand => "SelectCommand"
  | userSelect => "UserSelect"
  | userSelectOptional => "UserSelectOptional"
  | userSelectMultiple => "UserSelectMultiple"
  | userSelectMultipleOptional => "UserSelectMultipleOptional"
  | beginTable => "BeginTable"
  | invalidateParam => "InvalidateParam"
  | assignment => "Assignment"
  | ifBranch => "IfBranch"
  | ifCommand => "IfCommand"
  | forCommand => "ForCommand"
  | whileCommand => "WhileCommand"
  | expressionCommand => "ExpressionCommand"
  | block => "Block"
  | script => "Script"

/-- The class with a name. -/
def ofName? (s : String) : Option NodeClass := all.find? (·.name == s)

/-- The family of a class. -/
def family : NodeClass → NodeFamily
  | intLiteral | doubleLiteral | stringLiteral | boolLiteral | constant | variableRef | unaryOp
  | binaryOp | functionCall | arrayIndex | mapLookup | structAccess => .expression
  | ifBranch => .branch
  | block => .block
  | script => .script
  | _ => .command

/-- Whether a class may stand where a family is asked for. -/
def fits (c : NodeClass) (expected : NodeFamily) : Bool :=
  expected == .any || c.family == expected

/-- A field that must be given. -/
def needed (name : String) (type : FieldType) : NodeField := ⟨name, type, true⟩

/-- A field that may be left out. -/
def free (name : String) (type : FieldType) : NodeField := ⟨name, type, false⟩

/-- Flags that are off where they are left out. -/
def flags (names : List String) : List NodeField := names.map (free · .truth)

/-- Expressions that may be left out. -/
def slots (names : List String) : List NodeField := names.map (free · .optionalExpression)

/-- The fields of a field's explanation and place on the picture. -/
def displayFields : List NodeField :=
  slots ["tooltip", "image"] ++ flags ["on_picture"] ++ slots ["pos_x", "pos_y"]

/-- The fields of every selection. -/
def selectFields : List NodeField :=
  [free "types" .expressions] ++ slots ["display_order"] ++ flags ["allow_reselect"]
    ++ slots ["filter_mdl", "filter_feat", "filter_geom", "filter_ref", "filter_identifier"]
    ++ flags ["select_by_box", "select_by_menu"] ++ slots ["include_multi_cad"] ++ displayFields
    ++ slots ["tag"]

/-- The fields of a class, in the order in which they are declared. -/
def ownFields : NodeClass → List NodeField
  | intLiteral => [needed "value" .whole]
  | doubleLiteral => [needed "value" .real]
  | stringLiteral => [needed "value" .text]
  | boolLiteral => [needed "value" .truth]
  | constant => [needed "name" .text, needed "value" .real]
  | variableRef => [needed "name" .text]
  | unaryOp => [needed "operator" .operator, needed "operand" .expression]
  | binaryOp =>
    [needed "left" .expression, needed "operator" .operator, needed "right" .expression]
  | functionCall => [needed "name" .text, free "args" .expressions]
  | arrayIndex => [needed "base" .expression, needed "index" .expression]
  | mapLookup => [needed "map" .expression, needed "key" .text]
  | structAccess => [needed "structure" .expression, needed "member" .text]
  | declareVariable =>
    [needed "name" .text, needed "var_kind" .variableKind, free "subtype" .optionalSubtype]
      ++ slots ["default"]
  | configElem =>
    flags ["no_tables", "no_gui", "auto_commit", "auto_close", "show_gui_for_existing",
      "no_auto_update", "continue_on_cancel", "has_screen_location"]
      ++ slots ["location", "width", "height"]
  | globalPicture => slots ["picture"]
  | subPicture => slots ["picture", "pos_x", "pos_y"]
  | showParam => [needed "name" .text, needed "subtype" .subtype] ++ displayFields
  | checkboxParam =>
    [needed "name" .text, needed "subtype" .subtype] ++ flags ["required"]
      ++ slots ["display_order"] ++ displayFields ++ slots ["tag"]
  | userInputParam =>
    [needed "name" .text, needed "subtype" .subtype] ++ slots ["default"]
      ++ [free "default_for" .texts] ++ slots ["width", "decimal_places", "model"]
      ++ flags ["required", "no_update"] ++ slots ["display_order", "min_value", "max_value"]
      ++ displayFields
  | radioButtonParam =>
    [needed "name" .text, needed "subtype" .subtype, free "options" .expressions]
      ++ flags ["required"] ++ slots ["display_order"] ++ displayFields
  | selectCommand => selectFields
  | userSelect | userSelectOptional => selectFields ++ [free "reference" .text]
  | userSelectMultiple | userSelectMultipleOptional =>
    selectFields ++ [free "array" .text] ++ slots ["max_sel"]
  | beginTable =>
    [needed "identifier" .text] ++ slots ["name"]
      ++ [free "options" .expressions, free "sel_strings" .expressions,
        free "data_types" .expressions, free "rows" .expressionRows]
      ++ flags ["no_autosel", "no_filter", "depend_on_input", "invalidate_on_unselect",
        "show_autosel", "filter_rigid", "array"]
      ++ [free "filter_only_column" .whole, free "filter_column" .whole,
        free "table_height" .whole]
  | invalidateParam => [needed "name" .text]
  | assignment =>
    [needed "lhs" .expression, needed "rhs" .expression, free "assign_id" .whole]
  | ifBranch => [needed "condition" .expression, free "commands" .commands]
  | ifCommand => [free "branches" .branches, free "else_commands" .commands, free "if_id" .whole]
  | forCommand =>
    [needed "loop_var" .text, needed "option" .text, free "args" .expressions,
      free "commands" .commands]
  | whileCommand => [needed "condition" .expression, free "commands" .commands]
  | expressionCommand => [needed "expression" .expression]
  | block => [needed "kind" .blockKind, free "commands" .commands]
  | script => [free "blocks" .blocks, free "filename" .optionalText]

/-- The fields that a class has in common with all of its family. -/
def commonFields (c : NodeClass) : List NodeField :=
  free "span" .span :: (if c.family = .command then flags ["semantic_valid"] else [])

/-- The field of a class with a name. -/
def field? (c : NodeClass) (name : String) : Option NodeField :=
  (c.ownFields ++ c.commonFields).find? (·.name == name)

/-- The field that holds the number of a conditional or an assignment. -/
def idField? : NodeClass → Option String
  | ifCommand => some "if_id"
  | assignment => some "assign_id"
  | _ => none

/-- The fields that must be given and are not among some names, in the order of declaration. -/
def missing (c : NodeClass) (given : List String) : List String :=
  (c.ownFields.filter fun f => f.required && !given.contains f.name).map NodeField.name

end NodeClass

end DialogScript
