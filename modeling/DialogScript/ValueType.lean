import DialogScript.Text.Blank
import DialogScript.Text.UpperCase

/-!
The value types of the language, and the declared kinds and subtypes that resolve to them. There are
no user-defined types.
-/

namespace DialogScript

open DialogScript.Text

/-- The type of a value. -/
inductive ValueType where
  | integer | double | string | bool | reference | fileDescriptor | array | map | struct
  deriving DecidableEq, Repr

namespace ValueType

/-- Every value type. -/
def all : List ValueType :=
  [integer, double, string, bool, reference, fileDescriptor, array, map, struct]

/-- The script spelling. -/
def name : ValueType → String
  | integer => "INTEGER"
  | double => "DOUBLE"
  | string => "STRING"
  | bool => "BOOL"
  | reference => "REFERENCE"
  | fileDescriptor => "FILE_DESCRIPTOR"
  | array => "ARRAY"
  | map => "MAP"
  | struct => "STRUCTURE"

/-- The type with a spelling. -/
def ofName? (s : String) : Option ValueType := all.find? (·.name == s)

/-- Integers and doubles. -/
def isNumeric : ValueType → Bool
  | integer | double => true
  | _ => false

/-- The types of a single piece of script text. -/
def isScalar : ValueType → Bool
  | integer | double | string | bool => true
  | _ => false

/-- The types that hold other values. -/
def isContainer : ValueType → Bool
  | array | map | struct => true
  | _ => false

/-- The types accepted as a condition. -/
def isCondition : ValueType → Bool
  | bool | integer | double => true
  | _ => false

/-- Whether a value of type `other` fits a slot: the same type, or an integer in a double slot. -/
def accepts (slot other : ValueType) : Bool :=
  slot == other || (slot == double && other == integer)

end ValueType

/-- The kinds of variable that a declaration names. -/
inductive VariableKind where
  | parameter | reference | fileDescriptor | array | map | general | struct
  deriving DecidableEq, Repr

namespace VariableKind

/-- Every variable kind. -/
def all : List VariableKind :=
  [parameter, reference, fileDescriptor, array, map, general, struct]

/-- The script spelling. -/
def name : VariableKind → String
  | parameter => "PARAMETER"
  | reference => "REFERENCE"
  | fileDescriptor => "FILE_DESCRIPTOR"
  | array => "ARRAY"
  | map => "MAP"
  | general => "GENERAL"
  | struct => "STRUCTURE"

end VariableKind

/-- The subtypes of a parameter. -/
inductive ParamSubtype where
  | int | double | string | bool
  deriving DecidableEq, Repr

namespace ParamSubtype

/-- Every subtype. -/
def all : List ParamSubtype := [int, double, string, bool]

/-- The short name. -/
def name : ParamSubtype → String
  | int => "INT"
  | double => "DOUBLE"
  | string => "STRING"
  | bool => "BOOL"

/-- The value type that a parameter of this subtype has. -/
def valueType : ParamSubtype → ValueType
  | int => .integer
  | double => .double
  | string => .string
  | bool => .bool

/-- The script spelling, which is that of the value type. -/
def spelling (s : ParamSubtype) : String := s.valueType.name

/-- The subtype with a name or a spelling, in any case and with blanks around it. -/
def ofText? (s : String) : Option ParamSubtype :=
  let wanted := upper (trim s)
  all.find? fun t => t.name == wanted || t.spelling == wanted

end ParamSubtype

/-- The type that a declaration gives its variable. There is none for a parameter without a subtype,
nor for a general declaration. -/
def VariableKind.valueType? (kind : VariableKind) (subtype : Option ParamSubtype) :
    Option ValueType :=
  match kind with
  | .parameter => subtype.map ParamSubtype.valueType
  | .reference => some .reference
  | .fileDescriptor => some .fileDescriptor
  | .array => some .array
  | .map => some .map
  | .general => none
  | .struct => some .struct

/-- A letter of the Latin alphabet or an underscore. -/
def isNameStart (c : Char) : Bool := c.isAlpha || c = '_'

/-- A character that may follow the first one of an identifier. -/
def isNameRest (c : Char) : Bool := c.isAlphanum || c = '_'

/-- Whether a text is an identifier: it starts with a letter or an underscore and goes on with
letters, digits and underscores. -/
def isIdentifier (s : String) : Bool :=
  match s.toList with
  | [] => false
  | c :: rest => isNameStart c && rest.all isNameRest

end DialogScript
