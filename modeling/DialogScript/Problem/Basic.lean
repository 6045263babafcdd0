import DialogScript.Builtin.Error
import DialogScript.CommandKind
import DialogScript.Problem.Breakdown
import DialogScript.Source
import DialogScript.ValueType

/-!
Problems: what can be wrong with a command or an expression. A problem has a code, whose first digit
tells its kind, a message and sometimes a hint.
-/

namespace DialogScript

/-- The kinds of problem. -/
inductive ProblemKind where
  | malformed | type | constraint | duplicate | unresolved | allocation
  deriving DecidableEq, Repr

/-- The name of a kind. -/
def ProblemKind.name : ProblemKind → String
  | malformed => "MALFORMED"
  | type => "TYPE"
  | constraint => "CONSTRAINT"
  | duplicate => "DUPLICATE"
  | unresolved => "UNRESOLVED"
  | allocation => "ALLOCATION"

/-- What can be wrong. -/
inductive Problem where
  /-- A required field is absent. -/
  | missingField (command : CommandKind) (field : String)
  /-- A name is no identifier. -/
  | invalidIdentifier (command : CommandKind) (name : String)
  /-- An expression is absent where one is read. -/
  | missingExpression
  /-- A node that is no expression stands where one is read. -/
  | notAnExpression (node : String)
  /-- The left-hand side of an assignment is no place to store a value. -/
  | notAssignable (text : String)
  /-- Something has another type than it needs. -/
  | typeMismatch (what expected found : String)
  /-- An operator does not apply to one operand. -/
  | invalidOperand (op : Operator) (operand : ValueType)
  /-- An operator does not apply to two operands. -/
  | invalidOperands (op : Operator) (left right : ValueType)
  /-- A command does not allow a subtype. -/
  | invalidSubtype (command : CommandKind) (name : String) (found : ParamSubtype)
      (allowed : List ParamSubtype)
  /-- A name is bound with another type. -/
  | redeclared (name : String) (existing declared : ValueType)
  /-- A function has another number of arguments. -/
  | functionArity (function : String) (expected found : Nat)
  /-- An argument, counted from zero, has another type. -/
  | argumentType (function : String) (index : Nat) (expected found : ValueType)
  /-- A condition has a type that is neither true nor false. -/
  | conditionType (found : ValueType)
  /-- An expression cannot be read in the form that is asked for. -/
  | notEvaluable (what target : String)
  /-- A built-in function refuses its arguments. -/
  | refused (e : BuiltinError)
  /-- A number is below zero. -/
  | negative (what : String) (found : Int)
  /-- A variable of this kind has no default value. -/
  | defaultNotAllowed (kind : VariableKind) (name : String)
  /-- A size of the dialog is not above zero. -/
  | sizeNotPositive (what : String) (found : Float)
  /-- A dialog has a height and no width. -/
  | heightWithoutWidth
  /-- A screen location is not one of the host's. -/
  | invalidLocation (found : String) (expected : List String)
  /-- The width of an input field is not above zero. -/
  | widthNotPositive (name : String)
  /-- A number of decimal places is below zero. -/
  | placesNegative (name : String)
  /-- The range of an input field is empty. -/
  | emptyRange (name : String) (least greatest : Float)
  /-- A radio group of two states has more options. -/
  | tooManyOptions (name : String)
  /-- A table has another number of data types than of columns. -/
  | dataTypeCount (found columns : Nat)
  /-- A column has a data type that the host does not know. -/
  | invalidDataType (found : String) (column : Nat)
  /-- A table has no columns. -/
  | noColumns (table : String)
  /-- A row has another number of cells than the table has columns. -/
  | rowLength (row : Nat) (table : String) (found expected : Nat)
  /-- An image stands without a tooltip. -/
  | imageWithoutTooltip (command : CommandKind) (name : String)
  /-- A position on the picture is not given. -/
  | positionMissing (command : CommandKind) (name : String)
  /-- A position on the picture is below zero. -/
  | positionNegative (command : CommandKind) (name : String) (x y : Int)
  /-- A number is divided by zero. -/
  | divisionByZero
  /-- A text is empty. -/
  | emptyValue (command : CommandKind) (what : String)
  /-- Commands or conditions inside a conditional failed. -/
  | branchFailures (count : Nat)
  /-- A name is bound already. -/
  | alreadyDeclared (name : String)
  /-- A command that may appear once appears again. -/
  | repeatedCommand (command : CommandKind)
  /-- A name is not bound. -/
  | undefined (name : String)
  /-- A function is not built in. -/
  | unknownFunction (name : String)
  /-- A reference type is not one of the host's. -/
  | unknownReference (command : CommandKind) (name : String)
  /-- A map or a structure has no entry of a name. -/
  | missingMember (container member : String)
  /-- A command needs another one before it. -/
  | missingPrerequisite (command prerequisite : CommandKind)
  /-- An index is outside an array. -/
  | indexOutOfRange (name : String) (index : Int)
  /-- Memory ran out. -/
  | allocation (command : CommandKind)

namespace Problem

/-- The code of a problem. -/
def code : Problem → String
  | missingField .. => "E101"
  | invalidIdentifier .. => "E102"
  | missingExpression | notAnExpression .. | notAssignable .. => "E103"
  | typeMismatch .. => "E201"
  | invalidOperand .. | invalidOperands .. => "E202"
  | invalidSubtype .. => "E203"
  | redeclared .. => "E204"
  | functionArity .. => "E205"
  | argumentType .. => "E206"
  | conditionType .. => "E207"
  | notEvaluable .. => "E208"
  | refused .. | negative .. | defaultNotAllowed .. | sizeNotPositive .. | heightWithoutWidth
  | invalidLocation .. | widthNotPositive .. | placesNegative .. | emptyRange ..
  | tooManyOptions .. | dataTypeCount .. | invalidDataType .. | noColumns .. | rowLength .. =>
    "E301"
  | imageWithoutTooltip .. => "E302"
  | positionMissing .. | positionNegative .. => "E303"
  | divisionByZero => "E304"
  | emptyValue .. => "E305"
  | branchFailures .. => "E306"
  | alreadyDeclared .. => "E401"
  | repeatedCommand .. => "E402"
  | undefined .. => "E501"
  | unknownFunction .. => "E502"
  | unknownReference .. => "E503"
  | missingMember .. => "E504"
  | missingPrerequisite .. => "E505"
  | indexOutOfRange .. => "E506"
  | allocation .. => "E900"

/-- The kind of a problem. -/
def kind : Problem → ProblemKind
  | missingField .. | invalidIdentifier .. | missingExpression | notAnExpression ..
  | notAssignable .. => .malformed
  | typeMismatch .. | invalidOperand .. | invalidOperands .. | invalidSubtype .. | redeclared ..
  | functionArity .. | argumentType .. | conditionType .. | notEvaluable .. => .type
  | refused .. | negative .. | defaultNotAllowed .. | sizeNotPositive .. | heightWithoutWidth
  | invalidLocation .. | widthNotPositive .. | placesNegative .. | emptyRange ..
  | tooManyOptions .. | dataTypeCount .. | invalidDataType .. | noColumns .. | rowLength ..
  | imageWithoutTooltip .. | positionMissing .. | positionNegative .. | divisionByZero
  | emptyValue .. | branchFailures .. => .constraint
  | alreadyDeclared .. | repeatedCommand .. => .duplicate
  | undefined .. | unknownFunction .. | unknownReference .. | missingMember ..
  | missingPrerequisite .. | indexOutOfRange .. => .unresolved
  | allocation .. => .allocation

/-- A short decimal for a message: six significant digits. -/
def shortNumber (x : Float) : String := Decimal.significant 6 x

/-- A text between single quotes, as it is. -/
def inQuotes (s : String) : String := "'" ++ s ++ "'"

/-- The message of a problem. -/
def message : Problem → String
  | missingField command field => "missing required " ++ field ++ " in " ++ command.name
  | invalidIdentifier command name =>
    "invalid identifier " ++ inQuotes name ++ " in " ++ command.name
  | missingExpression => "missing expression"
  | notAnExpression node => "unsupported expression " ++ node
  | notAssignable text => "cannot assign to " ++ text
  | typeMismatch what expected found =>
    "type mismatch for " ++ what ++ ": expected " ++ inQuotes expected ++ ", found "
      ++ inQuotes found
  | invalidOperand op operand =>
    "operator " ++ inQuotes op.symbol ++ " not applicable to " ++ inQuotes operand.name
  | invalidOperands op left right =>
    "operator " ++ inQuotes op.symbol ++ " not applicable to " ++ inQuotes left.name ++ " and "
      ++ inQuotes right.name
  | invalidSubtype command name found allowed =>
    "invalid subtype " ++ inQuotes found.spelling ++ " for " ++ inQuotes name ++ " in "
      ++ command.name ++ "; must be " ++ " or ".intercalate (allowed.map ParamSubtype.spelling)
  | redeclared name existing declared =>
    inQuotes name ++ " already declared as " ++ inQuotes existing.name ++ ", cannot redeclare as "
      ++ inQuotes declared.name
  | functionArity function expected found =>
    "function " ++ function ++ " expects " ++ toString expected ++ " argument(s), got "
      ++ toString found
  | argumentType function index expected found =>
    "argument " ++ toString (index + 1) ++ " of " ++ function ++ ": expected "
      ++ inQuotes expected.name ++ ", found " ++ inQuotes found.name
  | conditionType found =>
    "condition must be BOOL, INTEGER or DOUBLE, found " ++ inQuotes found.name
  | notEvaluable what target => "cannot evaluate " ++ what ++ " as " ++ target
  | refused e => e.message
  | negative what found => what ++ " must not be negative, got " ++ toString found
  | defaultNotAllowed kind name =>
    kind.name ++ " " ++ inQuotes name ++ " cannot have a default value"
  | sizeNotPositive what found => what ++ " must be greater than 0, got " ++ shortNumber found
  | heightWithoutWidth => "HEIGHT given without WIDTH"
  | invalidLocation found expected =>
    "invalid SCREEN_LOCATION " ++ inQuotes found ++ "; expected one of "
      ++ ", ".intercalate expected
  | widthNotPositive name => "WIDTH of " ++ inQuotes name ++ " must be greater than 0"
  | placesNegative name => "DECIMAL_PLACES of " ++ inQuotes name ++ " must not be negative"
  | emptyRange name least greatest =>
    "MAX_VALUE " ++ shortNumber greatest ++ " is less than MIN_VALUE " ++ shortNumber least
      ++ " for " ++ inQuotes name
  | tooManyOptions name =>
    "BOOL radio group " ++ inQuotes name ++ " cannot have more than 2 options"
  | dataTypeCount found columns =>
    "data type count (" ++ toString found ++ ") does not match column count (" ++ toString columns
      ++ ")"
  | invalidDataType found column =>
    "invalid data type " ++ inQuotes found ++ " for column " ++ toString column
  | noColumns table => "table " ++ inQuotes table ++ " needs one SEL_STRING per column"
  | rowLength row table found expected =>
    "row " ++ toString row ++ " of table " ++ inQuotes table ++ " has " ++ toString found
      ++ " cell(s), expected " ++ toString expected
  | imageWithoutTooltip command name =>
    "IMAGE requires TOOLTIP for " ++ inQuotes name ++ " in " ++ command.name
  | positionMissing command name =>
    "ON_PICTURE for " ++ inQuotes name ++ " in " ++ command.name ++ ": POS_X and POS_Y are required"
  | positionNegative command name x y =>
    "ON_PICTURE for " ++ inQuotes name ++ " in " ++ command.name ++ ": negative position ("
      ++ toString x ++ ", " ++ toString y ++ ")"
  | divisionByZero => "division by zero"
  | emptyValue command what => what ++ " in " ++ command.name ++ " must not be empty"
  | branchFailures count => "conditional contains " ++ toString count ++ " invalid command(s)"
  | alreadyDeclared name => inQuotes name ++ " is already declared"
  | repeatedCommand command => command.name ++ " may appear only once per script"
  | undefined name => "undefined identifier " ++ inQuotes name
  | unknownFunction name => "unknown function " ++ inQuotes name
  | unknownReference command name =>
    "unknown reference type " ++ inQuotes name ++ " in " ++ command.name
  | missingMember container member => inQuotes container ++ " has no member " ++ inQuotes member
  | missingPrerequisite command prerequisite =>
    command.name ++ " requires a preceding " ++ prerequisite.name
  | indexOutOfRange name index =>
    "index " ++ toString index ++ " out of range for " ++ inQuotes name
  | allocation command => "allocation failure while analyzing " ++ command.name

/-- What may help to mend a problem. -/
def hints : Problem → List String
  | invalidIdentifier .. =>
    ["identifiers start with a letter or '_' and contain only letters, digits and '_'"]
  | positionMissing .. | positionNegative .. =>
    ["ON_PICTURE requires POS_X and POS_Y as non-negative integers"]
  | _ => []

end Problem

/-- A problem at a place, if the place is known. -/
structure AnalysisError where
  problem : Problem
  span : Option Span := none

/-- How a computation of the analysis fails: with a problem, or by a breakdown. -/
inductive Failure where
  | error (e : AnalysisError)
  | broken (b : Breakdown)

end DialogScript
