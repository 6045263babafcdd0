import DialogScript.Data.Display
import DialogScript.Value.Basic

/-!
Values as plain data, and values as messages show them: the data of each value together with its
type.
-/

namespace DialogScript.Value

mutual

/-- The plain data of a value. -/
def toData : Value → Data
  | integer n => .int n
  | double x => .real x
  | string s => .text s
  | bool b => .bool b
  | reference handle => .ofText? handle
  | fileDescriptor handle => .ofText? handle
  | array items => .list (itemsToData items)
  | map entries => .dict (entriesToData entries)
  | struct members => .dict (entriesToData members)

/-- The plain data of each item. -/
def itemsToData : List Value → List Data
  | [] => []
  | item :: rest => toData item :: itemsToData rest

/-- The plain data of each entry; an entry without a value is null. -/
def entriesToData : List (String × Option Value) → List (String × Data)
  | [] => []
  | (key, some value) :: rest => (key, toData value) :: entriesToData rest
  | (key, none) :: rest => (key, .null) :: entriesToData rest

end

/-- The data of a value and its type. -/
def frame (data : String) (type : ValueType) : String :=
  "Value(" ++ data ++ ", " ++ type.name ++ ")"

/-- A handle as it is shown: nothing, or a quoted text. -/
def handleText : Option String → String
  | some handle => Text.quoted handle
  | none => Data.null.quoted

mutual

/-- A value with its type, and so for all values inside it. -/
def display : Value → String
  | integer n => frame (toString n) .integer
  | double x => frame (Decimal.natural x) .double
  | string s => frame (Text.quoted s) .string
  | bool b => frame (Data.truthText b) .bool
  | reference handle => frame (handleText handle) .reference
  | fileDescriptor handle => frame (handleText handle) .fileDescriptor
  | array items => frame ("[" ++ Data.commaSeparated (displayItems items) ++ "]") .array
  | map entries => frame ("\x7b" ++ Data.commaSeparated (displayEntries entries) ++ "\x7d") .map
  | struct members =>
    frame ("\x7b" ++ Data.commaSeparated (displayEntries members) ++ "\x7d") .struct

/-- Each item with its type. -/
def displayItems : List Value → List String
  | [] => []
  | item :: rest => display item :: displayItems rest

/-- Each entry, its key quoted. -/
def displayEntries : List (String × Option Value) → List String
  | [] => []
  | (key, some value) :: rest => (Text.quoted key ++ ": " ++ display value) :: displayEntries rest
  | (key, none) :: rest => (Text.quoted key ++ ": " ++ Data.null.quoted) :: displayEntries rest

end

/-- A value as it is shown, if its integers can be written. -/
def shown (v : Value) : Except Breakdown String :=
  if v.toData.isWritable then .ok v.display else .error .longIntegerText

end DialogScript.Value
