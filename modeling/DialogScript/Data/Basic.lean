/-!
Plain data: what serialized trees and host tables are written in. Mappings keep the order in which
their entries were written.
-/

namespace DialogScript

/-- Plain data of a serialized file. -/
inductive Data where
  | null
  | bool (b : Bool)
  | int (n : Int)
  | real (x : Float)
  | text (s : String)
  | list (items : List Data)
  | dict (entries : List (String × Data))

namespace Data

instance : Inhabited Data := ⟨null⟩

/-- The word for the shape of a piece of data, as messages name it. -/
def shape : Data → String
  | null => "NoneType"
  | bool _ => "bool"
  | int _ => "int"
  | real _ => "float"
  | text _ => "str"
  | list _ => "list"
  | dict _ => "dict"

/-- Whether data counts as present: null, false, zero and empty data do not. -/
def isFilled : Data → Bool
  | null => false
  | bool b => b
  | int n => n != 0
  | real x => x != 0.0
  | text s => s != ""
  | list items => !items.isEmpty
  | dict entries => !entries.isEmpty

/-- Whether data is null. -/
def isNull : Data → Bool
  | null => true
  | _ => false

/-- The value under a key of a mapping. -/
def get? (key : String) : Data → Option Data
  | dict entries => entries.lookup key
  | _ => none

/-- A text, or null. -/
def ofText? : Option String → Data
  | some s => text s
  | none => null

end Data

end DialogScript
