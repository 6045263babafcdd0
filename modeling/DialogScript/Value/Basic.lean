import DialogScript.Data.Basic
import DialogScript.Decimal.Notation
import DialogScript.Number
import DialogScript.ValueType

/-!
The values that names are bound to. The type of a value decides through which reader it is read.
-/

namespace DialogScript

/-- A value with its type. References and file descriptors hold an opaque handle or nothing; an
entry of a map or a structure may hold no value. -/
inductive Value where
  | integer (n : Int)
  | double (x : Float)
  | string (s : String)
  | bool (b : Bool)
  | reference (handle : Option String)
  | fileDescriptor (handle : Option String)
  | array (items : List Value)
  | map (entries : List (String × Option Value))
  | struct (members : List (String × Option Value))

namespace Value

instance : Inhabited Value := ⟨integer 0⟩

/-- The type of a value. -/
def type : Value → ValueType
  | integer _ => .integer
  | double _ => .double
  | string _ => .string
  | bool _ => .bool
  | reference _ => .reference
  | fileDescriptor _ => .fileDescriptor
  | array _ => .array
  | map _ => .map
  | struct _ => .struct

/-- The zero or empty value of a type. -/
def zeroOf : ValueType → Value
  | .integer => integer 0
  | .double => double 0.0
  | .string => string ""
  | .bool => bool false
  | .reference => reference none
  | .fileDescriptor => fileDescriptor none
  | .array => array []
  | .map => map []
  | .struct => struct []

/-- A map whose entries all hold a value. -/
def mapOf (entries : List (String × Value)) : Value := map (entries.map fun e => (e.1, some e.2))

/-- An array of strings. -/
def strings (texts : List String) : Value := array (texts.map string)

/-- The integer of a truth value. -/
def ofTruth (b : Bool) : Int := if b then 1 else 0

/-- Reads an integer; a truth value is one or zero. -/
def asInteger : Value → Except Breakdown Int
  | integer n => .ok n
  | bool b => .ok (ofTruth b)
  | v => .error (.wrongReader v.type [.integer, .bool])

/-- Reads a double. -/
def asDouble : Value → Except Breakdown Float
  | double x => .ok x
  | v => .error (.wrongReader v.type [.double])

/-- Reads a string. -/
def asString : Value → Except Breakdown String
  | string s => .ok s
  | v => .error (.wrongReader v.type [.string])

/-- Reads a truth value. -/
def asBool : Value → Except Breakdown Bool
  | bool b => .ok b
  | v => .error (.wrongReader v.type [.bool])

/-- Reads the items of an array. -/
def asArray : Value → Except Breakdown (List Value)
  | array items => .ok items
  | v => .error (.wrongReader v.type [.array])

/-- Reads the entries of a map. -/
def asMap : Value → Except Breakdown (List (String × Option Value))
  | map entries => .ok entries
  | v => .error (.wrongReader v.type [.map])

/-- Reads the members of a structure. -/
def asStruct : Value → Except Breakdown (List (String × Option Value))
  | struct members => .ok members
  | v => .error (.wrongReader v.type [.struct])

/-- Reads an integer, a truth value or a double as a double. -/
def asNumber : Value → Except Breakdown Float
  | integer n => Number.toDouble n
  | bool b => Number.toDouble (ofTruth b)
  | double x => .ok x
  | v => .error (.wrongReader v.type [.integer, .bool, .double])

/-- Whether a value counts as true: a number other than zero, or a string that is not empty. -/
def isTruthy : Value → Bool
  | integer n => n != 0
  | bool b => b
  | double x => x != 0.0
  | string s => s != ""
  | _ => false

/-- The significant digits of a double in script text. -/
def scriptDigits : Nat := 15

/-- A double as script text. -/
def doubleText (x : Float) : String := Decimal.significant scriptDigits x

/-- A scalar as script text; other values have none. An integer with too many digits breaks
down. -/
def scalarText? : Value → Except Breakdown (Option String)
  | string s => .ok (some s)
  | integer n => some <$> Number.text n
  | double x => .ok (some (doubleText x))
  | bool b => .ok (some (if b then "1" else "0"))
  | _ => .ok none

theorem type_zeroOf (t : ValueType) : (zeroOf t).type = t := by cases t <;> rfl

end Value

end DialogScript
