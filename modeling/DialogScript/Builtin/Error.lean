import DialogScript.Decimal.Notation
import DialogScript.Problem.Breakdown

/-!
Arguments outside the domain of a built-in function.
-/

namespace DialogScript

/-- Why a built-in function refuses its arguments. -/
inductive BuiltinError where
  /-- A function of doubles has no value there. -/
  | rejected (function : String) (args : List Float) (cause : Breakdown)
  /-- The divisor of a remainder is zero. -/
  | moduloZero
  /-- A text is no number. -/
  | notNumber (text : String)
  /-- A text is no integer. -/
  | notInteger (text : String)
  /-- A text is no truth value. -/
  | notBoolean (text : String)

/-- The text of a refusal. -/
def BuiltinError.message : BuiltinError → String
  | rejected function args cause =>
    function ++ "(" ++ ", ".intercalate (args.map Decimal.natural) ++ "): " ++ cause.message
  | moduloZero => "MOD by zero"
  | notNumber text => "STOF: '" ++ text ++ "' is not a number"
  | notInteger text => "STOI: '" ++ text ++ "' is not an integer"
  | notBoolean text => "STOB: '" ++ text ++ "' is not a boolean"

end DialogScript
