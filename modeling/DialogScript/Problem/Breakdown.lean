import DialogScript.Operator
import DialogScript.Text.Quoted
import DialogScript.ValueType

/-!
Breakdowns: failures of arithmetic or of the data's shape that are not part of the language's own
checks. They end the pass instead of marking a command.
-/

namespace DialogScript

/-- What a missing operand meets. -/
inductive OperandShape where
  | nothing | integer | double
  deriving DecidableEq, Repr

/-- The word for the shape of an operand. -/
def OperandShape.name : OperandShape → String
  | .nothing => "NoneType"
  | .integer => "int"
  | .double => "float"

/-- The causes of a breakdown. -/
inductive Breakdown where
  /-- An integer rounds beyond the largest double. -/
  | integerTooLarge
  /-- An infinite double has no integer. -/
  | infiniteInteger
  /-- A double that is no number has no integer. -/
  | undefinedInteger
  /-- A power of ten is beyond the largest double. -/
  | powerTooLarge
  /-- A function has no value at its argument. -/
  | outsideDomain
  /-- A function's value is beyond the largest double. -/
  | outsideRange
  /-- A value is divided by a power of ten that is zero. -/
  | zeroScale
  /-- An integer is divided by zero. -/
  | zeroDivisor
  /-- An operand of an operation is missing. -/
  | missingOperand (op : Operator) (left right : OperandShape)
  /-- The operand of a negation is missing. -/
  | missingNegation
  /-- An operand of an integer division is missing. -/
  | missingMagnitude
  /-- A text is no integer numeral. -/
  | malformedInteger (text : String)
  /-- An integer numeral has too many digits. -/
  | longInteger (digits : Nat)
  /-- An integer has too many digits to be written. -/
  | longIntegerText
  /-- A text is no real numeral. -/
  | malformedReal (text : String)
  /-- Data that is neither number nor text stands for an integer. -/
  | notAnInteger (shape : String)
  /-- Data that is neither number nor text stands for a real number. -/
  | notAReal (shape : String)
  /-- Data without items stands for a list. -/
  | notIterable (shape : String)
  /-- Data that cannot be looked up stands for a name. -/
  | unhashable (shape : String)
  /-- Something lacks what is asked of it. -/
  | noMember (owner member : String)
  /-- A selection of no particular variant has no target. -/
  | noTarget
  /-- A path holds a null character. -/
  | nullCharacter
  /-- A path starts at a home directory that is not known. -/
  | noHome
  /-- A value is read through a reader for other types. -/
  | wrongReader (found : ValueType) (wanted : List ValueType)
  deriving DecidableEq, Repr

namespace Breakdown

/-- The families of breakdowns. Only those about a value are reported like an unreadable file. -/
inductive Family where
  | overflow | value | zeroDivision | type | member | notImplemented | runtime | access
  deriving DecidableEq, Repr

/-- The family of a breakdown. -/
def family : Breakdown → Family
  | integerTooLarge | infiniteInteger | powerTooLarge | outsideRange => .overflow
  | undefinedInteger | outsideDomain | malformedInteger _ | longInteger _ | longIntegerText
  | malformedReal _ | nullCharacter => .value
  | zeroScale | zeroDivisor => .zeroDivision
  | missingOperand _ _ _ | missingNegation | missingMagnitude | notAnInteger _ | notAReal _
  | notIterable _ | unhashable _ => .type
  | noMember _ _ => .member
  | noTarget => .notImplemented
  | noHome => .runtime
  | wrongReader _ _ => .access

/-- The number of characters that are shown of a text that is no integer numeral. -/
def shownLength : Nat := 200

/-- The text of a breakdown. -/
def message : Breakdown → String
  | integerTooLarge => "int too large to convert to float"
  | infiniteInteger => "cannot convert float infinity to integer"
  | undefinedInteger => "cannot convert float NaN to integer"
  | powerTooLarge => "(34, 'Numerical result out of range')"
  | outsideDomain => "math domain error"
  | outsideRange => "math range error"
  | zeroScale => "float division by zero"
  | zeroDivisor => "integer division or modulo by zero"
  | missingOperand op left right =>
    "unsupported operand type(s) for " ++ op.symbol ++ ": '" ++ left.name ++ "' and '" ++ right.name
      ++ "'"
  | missingNegation => "bad operand type for unary -: 'NoneType'"
  | missingMagnitude => "bad operand type for abs(): 'NoneType'"
  | malformedInteger text =>
    "invalid literal for int() with base 10: "
      ++ String.ofList ((Text.quoted text).toList.take shownLength)
  | longInteger digits =>
    "Exceeds the limit (4300 digits) for integer string conversion: value has " ++ toString digits
      ++ " digits; use sys.set_int_max_str_digits() to increase the limit"
  | longIntegerText =>
    "Exceeds the limit (4300 digits) for integer string conversion; "
      ++ "use sys.set_int_max_str_digits() to increase the limit"
  | malformedReal text => "could not convert string to float: " ++ Text.quoted text
  | notAnInteger shape =>
    "int() argument must be a string, a bytes-like object or a real number, not '" ++ shape ++ "'"
  | notAReal shape => "float() argument must be a string or a real number, not '" ++ shape ++ "'"
  | notIterable shape => "'" ++ shape ++ "' object is not iterable"
  | unhashable shape => "unhashable type: '" ++ shape ++ "'"
  | noMember owner member => "'" ++ owner ++ "' object has no attribute '" ++ member ++ "'"
  | noTarget => ""
  | nullCharacter => "embedded null byte"
  | noHome => "Could not determine home directory."
  | wrongReader found wanted =>
    "cannot read " ++ found.name ++ " value as " ++ "/".intercalate (wanted.map ValueType.name)

end Breakdown

/-- Two steps that do not break down are taken one after the other. -/
theorem except_bind_ok {ε α β : Type} {x : Except ε α} {f : α → Except ε β} {b : β}
    (h : (x >>= f) = .ok b) : ∃ a, x = .ok a ∧ f a = .ok b := by
  cases x with
  | error e => cases h
  | ok a => exact ⟨a, rfl, h⟩

end DialogScript
