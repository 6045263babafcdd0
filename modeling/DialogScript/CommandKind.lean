/-!
The kinds of command that a script is made of.
-/

namespace DialogScript

/-- Every command kind. -/
inductive CommandKind where
  | declareVariable | configElem | showParam | globalPicture | subPicture | userInputParam
  | checkboxParam | userSelect | userSelectOptional | userSelectMultiple
  | userSelectMultipleOptional | radioButtonParam | beginTable | invalidateParam | conditional
  | forLoop | whileLoop | assignment | expression
  deriving DecidableEq, Repr

namespace CommandKind

/-- Every kind, in the order of the language's table. -/
def all : List CommandKind :=
  [declareVariable, configElem, showParam, globalPicture, subPicture, userInputParam,
    checkboxParam, userSelect, userSelectOptional, userSelectMultiple,
    userSelectMultipleOptional, radioButtonParam, beginTable, invalidateParam, conditional,
    forLoop, whileLoop, assignment, expression]

/-- The script spelling. -/
def name : CommandKind → String
  | declareVariable => "DECLARE_VARIABLE"
  | configElem => "CONFIG_ELEM"
  | showParam => "SHOW_PARAM"
  | globalPicture => "GLOBAL_PICTURE"
  | subPicture => "SUB_PICTURE"
  | userInputParam => "USER_INPUT_PARAM"
  | checkboxParam => "CHECKBOX_PARAM"
  | userSelect => "USER_SELECT"
  | userSelectOptional => "USER_SELECT_OPTIONAL"
  | userSelectMultiple => "USER_SELECT_MULTIPLE"
  | userSelectMultipleOptional => "USER_SELECT_MULTIPLE_OPTIONAL"
  | radioButtonParam => "RADIOBUTTON_PARAM"
  | beginTable => "BEGIN_TABLE"
  | invalidateParam => "INVALIDATE_PARAM"
  | conditional => "IF"
  | forLoop => "FOR"
  | whileLoop => "WHILE"
  | assignment => "ASSIGNMENT"
  | expression => "EXPRESSION"

/-- The kind with a spelling. -/
def ofName? (s : String) : Option CommandKind := all.find? (·.name == s)

/-- Whether a command of this kind is checked. Loops are passed over with a warning. -/
def isChecked : CommandKind → Bool
  | forLoop | whileLoop => false
  | _ => true

end CommandKind

end DialogScript
