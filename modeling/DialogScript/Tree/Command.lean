import DialogScript.CommandKind
import DialogScript.Tree.Expr

/-!
Commands, blocks and scripts. A command is an action, a conditional or a loop. Every command
carries a flag that tells whether it is valid; a checked tree differs from its source in these
flags alone.
-/

namespace DialogScript

/-- How a dialog field is explained and where it stands on the picture. -/
structure Display where
  tooltip : Expr := .absent
  image : Expr := .absent
  onPicture : Bool := false
  posX : Expr := .absent
  posY : Expr := .absent

/-- Whether a display asks for any option. -/
def Display.isGiven (d : Display) : Bool :=
  !d.tooltip.isAbsent || !d.image.isAbsent || d.onPicture

/-- `DECLARE_VARIABLE`: a variable of a kind, with a subtype and a default where it has one. -/
structure Declaration where
  name : String
  kind : VariableKind
  subtype : Option ParamSubtype := none
  default : Expr := .absent

/-- `CONFIG_ELEM`: the dialog's flags, and its size and place. -/
structure DialogConfig where
  noTables : Bool := false
  noGui : Bool := false
  autoCommit : Bool := false
  autoClose : Bool := false
  showGuiForExisting : Bool := false
  noAutoUpdate : Bool := false
  continueOnCancel : Bool := false
  hasScreenLocation : Bool := false
  location : Expr := .absent
  width : Expr := .absent
  height : Expr := .absent

/-- `SHOW_PARAM`: a parameter that is only shown. -/
structure ShownParam where
  name : String
  subtype : ParamSubtype
  display : Display := {}

/-- `CHECKBOX_PARAM`: a parameter set by a checkbox. -/
structure CheckboxParam where
  name : String
  subtype : ParamSubtype
  required : Bool := false
  displayOrder : Expr := .absent
  display : Display := {}
  tag : Expr := .absent

/-- `USER_INPUT_PARAM`: a parameter that is typed in. -/
structure InputParam where
  name : String
  subtype : ParamSubtype
  default : Expr := .absent
  defaultFor : List String := []
  width : Expr := .absent
  decimalPlaces : Expr := .absent
  model : Expr := .absent
  required : Bool := false
  noUpdate : Bool := false
  displayOrder : Expr := .absent
  minValue : Expr := .absent
  maxValue : Expr := .absent
  display : Display := {}

/-- Whether an input field gives any option. -/
def InputParam.hasOptions (p : InputParam) : Bool :=
  !p.width.isAbsent || !p.decimalPlaces.isAbsent || !p.model.isAbsent || !p.displayOrder.isAbsent
    || !p.minValue.isAbsent || !p.maxValue.isAbsent || p.display.isGiven || p.required
    || p.noUpdate || !p.defaultFor.isEmpty

/-- `RADIOBUTTON_PARAM`: a parameter that takes the index of a chosen option. -/
structure RadioParam where
  name : String
  subtype : ParamSubtype
  options : List Expr := []
  required : Bool := false
  displayOrder : Expr := .absent
  display : Display := {}

/-- What a selection binds: one reference or an array of them. A tree can also hold a selection of
no particular variant, which binds nothing and has no kind. -/
inductive SelectTarget where
  | unspecified
  | one (reference : String) (required : Bool)
  | many (array : String) (maxSel : Expr) (required : Bool)

/-- `USER_SELECT` and its variants: geometry picked by the user. -/
structure Selection where
  target : SelectTarget
  types : List Expr := []
  displayOrder : Expr := .absent
  allowReselect : Bool := false
  filterModel : Expr := .absent
  filterFeature : Expr := .absent
  filterGeometry : Expr := .absent
  filterReference : Expr := .absent
  filterIdentifier : Expr := .absent
  selectByBox : Bool := false
  selectByMenu : Bool := false
  includeMultiCad : Expr := .absent
  display : Display := {}
  tag : Expr := .absent

/-- `BEGIN_TABLE`: a table to select rows from. -/
structure SelectionTable where
  identifier : String
  name : Expr := .absent
  options : List Expr := []
  selStrings : List Expr := []
  dataTypes : List Expr := []
  rows : List (List Expr) := []
  noAutosel : Bool := false
  noFilter : Bool := false
  dependOnInput : Bool := false
  invalidateOnUnselect : Bool := false
  showAutosel : Bool := false
  filterRigid : Bool := false
  array : Bool := false
  filterOnlyColumn : Whole := .number (-1)
  filterColumn : Whole := .number (-1)
  tableHeight : Whole := .number 12

/-- The number of columns. -/
def SelectionTable.columnCount (t : SelectionTable) : Nat := t.selStrings.length

/-- The commands that hold no other commands. -/
inductive Action where
  | declare (d : Declaration)
  | configure (c : DialogConfig)
  | globalPicture (picture : Expr)
  | subPicture (picture posX posY : Expr)
  | showParam (p : ShownParam)
  | checkbox (p : CheckboxParam)
  | userInput (p : InputParam)
  | radio (p : RadioParam)
  | select (s : Selection)
  | table (t : SelectionTable)
  | invalidate (name : String)
  | assign (lhs rhs : Expr) (id : Int)
  | evaluate (expression : Expr)

/-- The kind of a selection. -/
def SelectTarget.kind? : SelectTarget → Option CommandKind
  | unspecified => none
  | one _ true => some .userSelect
  | one _ false => some .userSelectOptional
  | many _ _ true => some .userSelectMultiple
  | many _ _ false => some .userSelectMultipleOptional

/-- The kind of an action. -/
def Action.kind? : Action → Option CommandKind
  | declare _ => some .declareVariable
  | configure _ => some .configElem
  | globalPicture _ => some .globalPicture
  | subPicture .. => some .subPicture
  | showParam _ => some .showParam
  | checkbox _ => some .checkboxParam
  | userInput _ => some .userInputParam
  | radio _ => some .radioButtonParam
  | select s => s.target.kind?
  | table _ => some .beginTable
  | invalidate _ => some .invalidateParam
  | assign .. => some .assignment
  | evaluate _ => some .expression

/-- Where a command stands, and whether it is valid. -/
structure Status where
  span : Option Span := none
  valid : Bool := true

mutual

/-- Commands. -/
inductive Command where
  | action (status : Status) (action : Action)
  | conditional (status : Status) (branches : List Branch) (otherwise : List Command) (id : Int)
  | forLoop (status : Status) (loopVar option : String) (args : List Expr) (body : List Command)
  | whileLoop (status : Status) (condition : Expr) (body : List Command)

/-- A branch of a conditional: its condition and its commands. -/
inductive Branch where
  | mk (span : Option Span) (condition : Expr) (commands : List Command)

end

namespace Branch

/-- The condition of a branch. -/
def condition : Branch → Expr
  | mk _ condition _ => condition

/-- The commands of a branch. -/
def commands : Branch → List Command
  | mk _ _ commands => commands

end Branch

namespace Command

/-- The status of a command. -/
def status : Command → Status
  | action s _ | conditional s _ _ _ | forLoop s _ _ _ _ | whileLoop s _ _ => s

/-- Where a command stands. -/
def span (c : Command) : Option Span := c.status.span

/-- Whether a command is valid. -/
def valid (c : Command) : Bool := c.status.valid

/-- The kind of a command; a selection of no particular variant has none. -/
def kind? : Command → Option CommandKind
  | action _ a => a.kind?
  | conditional .. => some .conditional
  | forLoop .. => some .forLoop
  | whileLoop .. => some .whileLoop

/-- The command marked as invalid. -/
def markInvalid : Command → Command
  | action s a => action { s with valid := false } a
  | conditional s branches otherwise id =>
    conditional { s with valid := false } branches otherwise id
  | forLoop s v option args body => forLoop { s with valid := false } v option args body
  | whileLoop s condition body => whileLoop { s with valid := false } condition body

mutual

/-- The flags of a command and of all commands inside it, in document order. -/
def flags : Command → List Bool
  | action s _ => [s.valid]
  | conditional s branches otherwise _ => s.valid :: branchFlags branches ++ allFlags otherwise
  | forLoop s _ _ _ body => s.valid :: allFlags body
  | whileLoop s _ body => s.valid :: allFlags body

/-- The flags of some commands, in document order. -/
def allFlags : List Command → List Bool
  | [] => []
  | c :: rest => flags c ++ allFlags rest

/-- The flags of the commands in some branches, in document order. -/
def branchFlags : List Branch → List Bool
  | [] => []
  | .mk _ _ commands :: rest => allFlags commands ++ branchFlags rest

end

theorem valid_markInvalid (c : Command) : c.markInvalid.valid = false := by
  cases c <;> rfl

theorem kind?_markInvalid (c : Command) : c.markInvalid.kind? = c.kind? := by
  cases c <;> rfl

end Command

/-- The blocks of a script, in the order in which they are analyzed. -/
inductive BlockKind where
  | asm | gui | tab
  deriving DecidableEq, Repr

namespace BlockKind

/-- Every kind of block, in the order of analysis. -/
def all : List BlockKind := [asm, gui, tab]

/-- The script spelling. -/
def name : BlockKind → String
  | asm => "ASM"
  | gui => "GUI"
  | tab => "TAB"

end BlockKind

/-- A block and its commands. -/
structure Block where
  kind : BlockKind
  commands : List Command
  span : Option Span := none

/-- A script. The file name is kept as the data gave it. -/
structure Script where
  blocks : List Block
  filename : Data := .null
  span : Option Span := none

namespace Script

/-- The place of the first block of a kind. -/
def findBlock? (script : Script) (kind : BlockKind) : Option Nat :=
  script.blocks.findIdx? (·.kind == kind)

/-- The number of commands that stand in blocks directly. -/
def commandCount (script : Script) : Nat := (script.blocks.flatMap Block.commands).length

end Script

end DialogScript
