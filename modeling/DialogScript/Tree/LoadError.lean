import DialogScript.Data.Display
import DialogScript.Problem.Breakdown
import DialogScript.Tree.NodeClass

/-!
Why data describes no tree.
-/

namespace DialogScript

/-- Why data is refused as a tree. -/
inductive LoadError where
  /-- A mapping that names its class is expected. -/
  | notANode (expected : NodeFamily) (found : Data)
  /-- No class has the name. -/
  | unknownClass (name : Data)
  /-- A node stands where another family is asked for. -/
  | misplaced (found : NodeClass) (expected : NodeFamily)
  /-- A class has no such field. -/
  | unknownField (owner : NodeClass) (field : String)
  /-- A field holds data of another shape. -/
  | fieldShape (place expected : String) (found : Data)
  /-- A field holds no list. -/
  | notAList (place : String) (found : Data)
  /-- A choice is not among those of its type. -/
  | invalidChoice (place type : String) (found : Data)
  /-- Data of this shape is no expression. -/
  | notAnExpression (found : Data)
  /-- Fields are missing. -/
  | missingFields (owner : NodeClass) (names : List String)
  /-- A script is a mapping with blocks. -/
  | notAScript
  /-- A block is a mapping with a kind. -/
  | notABlock (found : Data)
  /-- A file holds nothing. -/
  | emptyFile (path : String)

namespace LoadError

/-- Names in quotes, with an "and" before the last. -/
def enumeration : List String → String
  | [] => ""
  | [a] => "'" ++ a ++ "'"
  | [a, b] => "'" ++ a ++ "' and '" ++ b ++ "'"
  | names =>
    let inner := names.dropLast.map fun n => "'" ++ n ++ "'"
    ", ".intercalate inner ++ ", and '" ++ names.getLast?.getD "" ++ "'"

/-- The data that the text of a refusal shows, null if it shows none. -/
def shown : LoadError → Data
  | notANode _ found | unknownClass found | fieldShape _ _ found | notAList _ found
  | invalidChoice _ _ found | notAnExpression found | notABlock found => found
  | misplaced .. | unknownField .. | missingFields .. | notAScript | emptyFile _ => .null

/-- The text of a refusal. -/
def message : LoadError → String
  | notANode expected found =>
    "expected a " ++ expected.name ++ " mapping with a 'node' key, got " ++ found.quoted
  | unknownClass name => "unknown node type '" ++ name.plain ++ "'"
  | misplaced found expected =>
    found.name ++ " cannot appear where a " ++ expected.name ++ " is expected"
  | unknownField owner field => owner.name ++ " has no field '" ++ field ++ "'"
  | fieldShape place expected found =>
    place ++ ": expected " ++ expected ++ ", got " ++ found.quoted
  | notAList place found => place ++ ": expected a list, got " ++ found.quoted
  | invalidChoice place type found =>
    place ++ ": '" ++ found.plain ++ "' is not a valid " ++ type
  | notAnExpression found => "cannot use " ++ found.quoted ++ " as an expression"
  | missingFields owner names =>
    "cannot build " ++ owner.name ++ ": " ++ owner.name ++ ".__init__() missing "
      ++ toString names.length ++ " required positional argument"
      ++ (if names.length = 1 then "" else "s") ++ ": " ++ enumeration names
  | notAScript => "script data must be a mapping with a 'blocks' list"
  | notABlock found => "block must be a mapping with a 'kind', got " ++ found.quoted
  | emptyFile path => "empty YAML file: " ++ path

end LoadError

/-- How loading fails: data is refused, or breaks a conversion. -/
inductive LoadFailure where
  | refused (e : LoadError)
  | broken (b : Breakdown)

/-- The text of a failure to load. -/
def LoadFailure.message : LoadFailure → String
  | refused e => e.message
  | broken b => b.message

end DialogScript
