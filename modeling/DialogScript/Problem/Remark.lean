import DialogScript.CommandKind
import DialogScript.Decimal.Notation
import DialogScript.Problem.Basic

/-!
Remarks: warnings and notes. They never change the outcome of a command.
-/

namespace DialogScript

/-- What can be remarked. -/
inductive Remark where
  /-- A variable is declared again. -/
  | redeclared (name : String) (count : Nat)
  /-- A dialog command finds its parameter bound. -/
  | parameterExists (name : String) (count : Nat) (command : CommandKind)
  /-- An option map is stored. -/
  | optionsStored (command : CommandKind) (name : String)
  /-- A parameter must be given before the dialog is accepted. -/
  | required (name list : String)
  /-- A parameter is queued for invalidation. -/
  | invalidationQueued (name : String)
  /-- A size is a fraction of the screen. -/
  | fractionalSize (what : String) (size : Float)
  /-- A size is absolute. -/
  | absoluteSize (what : String) (size : Float)
  /-- The dialog's main picture is set. -/
  | globalPicture (path : String)
  /-- A selected reference type is not one of the host's. -/
  | unknownReference (name : String)
  /-- An array of references can be selected; a negative bound on their number is no bound. -/
  | selectionBound (name : String) (bound : Int) (types : Nat)
  /-- A table cell names something that is not declared yet. -/
  | forwardReference (name : String) (row column : Nat) (columnType : String)
  /-- A command is passed over. -/
  | commandSkipped (command : CommandKind)
  /-- A name that is not bound is taken for the name of a file. -/
  | pathName (name : String)
  /-- The parameter to invalidate is not bound. -/
  | invalidatesNothing (name : String)
  /-- A default is meant for a parameter that is not bound. -/
  | defaultForUndeclared (name target : String)
  /-- A radio group leaves no choice. -/
  | fewOptions (name : String)
  /-- A table takes the place of another binding. -/
  | tableReplaces (name : String)
  /-- An assignment drops the fraction of a double. -/
  | truncatedAssignment (text : String)
  /-- A picture has a format that the host does not show. -/
  | unsupportedImage (path : String)

namespace Remark

/-- The code of a remark. -/
def code : Remark → String
  | redeclared .. => "N001"
  | parameterExists .. => "N002"
  | optionsStored .. => "N003"
  | required .. => "N004"
  | invalidationQueued .. => "N005"
  | fractionalSize .. | absoluteSize .. => "N010"
  | globalPicture .. => "N011"
  | unknownReference .. => "N020"
  | selectionBound .. => "N021"
  | forwardReference .. => "N030"
  | commandSkipped .. => "W001"
  | pathName .. => "W101"
  | invalidatesNothing .. => "W201"
  | defaultForUndeclared .. => "W202"
  | fewOptions .. => "W203"
  | tableReplaces .. => "W204"
  | truncatedAssignment .. => "W210"
  | unsupportedImage .. => "W301"

/-- Whether a remark is a warning; the others are notes. -/
def isWarning : Remark → Bool
  | commandSkipped .. | pathName .. | invalidatesNothing .. | defaultForUndeclared ..
  | fewOptions .. | tableReplaces .. | truncatedAssignment .. | unsupportedImage .. => true
  | _ => false

open Problem in
/-- The message of a remark. -/
def message : Remark → String
  | redeclared name count =>
    "variable " ++ inQuotes name ++ " redeclared (count now " ++ toString count ++ ")"
  | parameterExists name count command =>
    "parameter " ++ inQuotes name ++ " already exists (count now " ++ toString count ++ "); "
      ++ command.name ++ " options apply to it"
  | optionsStored command name => "stored " ++ command.name ++ " options for " ++ inQuotes name
  | required name list => inQuotes name ++ " marked as required (" ++ list ++ ")"
  | invalidationQueued name => inQuotes name ++ " queued for invalidation"
  | fractionalSize what size =>
    what ++ " " ++ Decimal.fixed 2 size ++ " is a fraction of the screen"
  | absoluteSize what size => what ++ " " ++ Decimal.fixed 2 size ++ " is an absolute size"
  | globalPicture path => "global picture set to " ++ inQuotes path
  | unknownReference name => "reference type " ++ inQuotes name ++ " is not a known host type"
  | selectionBound name bound types =>
    inQuotes name ++ " selects up to " ++ (if bound < 0 then "unlimited" else toString bound)
      ++ " reference(s) of " ++ toString types ++ " type(s)"
  | forwardReference name row column columnType =>
    inQuotes name ++ " in row " ++ toString row ++ ", column " ++ toString column
      ++ " is a forward " ++ columnType ++ " reference"
  | commandSkipped command => "no validator for " ++ command.name ++ "; command skipped"
  | pathName name => "undeclared identifier " ++ inQuotes name ++ " treated as a file name"
  | invalidatesNothing name =>
    "parameter " ++ inQuotes name ++ " is not declared; INVALIDATE_PARAM has no effect yet"
  | defaultForUndeclared name target =>
    "DEFAULT_FOR of " ++ inQuotes name ++ " names undeclared parameter " ++ inQuotes target
  | fewOptions name => "radio group " ++ inQuotes name ++ " has fewer than 2 options"
  | tableReplaces name => "table " ++ inQuotes name ++ " replaces an earlier binding"
  | truncatedAssignment text =>
    "DOUBLE value assigned to INTEGER " ++ inQuotes text ++ " is truncated"
  | unsupportedImage path => "unsupported image format for sub picture " ++ inQuotes path

end Remark

end DialogScript
