import DialogScript.Text.UpperCase
import DialogScript.ValueType

/-!
The built-in functions and their signatures.
-/

namespace DialogScript

/-- The built-in functions. -/
inductive Builtin where
  | sin | asin | cos | acos | tan | atan | sinh | cosh | tanh | log | ln | exp | ceil | floor | abs
  | sqrt | sqr | pow | mod | round | strFind | strFindCs | strCmp | strCmpCs | strLen | asc | stof
  | stoi | stob | isNumber | isInteger | isDouble | equal | less | lessOrEqual | greater
  | greaterOrEqual
  deriving DecidableEq, Repr

namespace Builtin

/-- Every built-in function. -/
def all : List Builtin :=
  [sin, asin, cos, acos, tan, atan, sinh, cosh, tanh, log, ln, exp, ceil, floor, abs, sqrt, sqr,
    pow, mod, round, strFind, strFindCs, strCmp, strCmpCs, strLen, asc, stof, stoi, stob, isNumber,
    isInteger, isDouble, equal, less, lessOrEqual, greater, greaterOrEqual]

/-- The script spelling. -/
def name : Builtin → String
  | sin => "SIN"
  | asin => "ASIN"
  | cos => "COS"
  | acos => "ACOS"
  | tan => "TAN"
  | atan => "ATAN"
  | sinh => "SINH"
  | cosh => "COSH"
  | tanh => "TANH"
  | log => "LOG"
  | ln => "LN"
  | exp => "EXP"
  | ceil => "CEIL"
  | floor => "FLOOR"
  | abs => "ABS"
  | sqrt => "SQRT"
  | sqr => "SQR"
  | pow => "POW"
  | mod => "MOD"
  | round => "ROUND"
  | strFind => "STRFIND"
  | strFindCs => "STRFINDCS"
  | strCmp => "STRCMP"
  | strCmpCs => "STRCMPCS"
  | strLen => "STRLEN"
  | asc => "ASC"
  | stof => "STOF"
  | stoi => "STOI"
  | stob => "STOB"
  | isNumber => "ISNUMBER"
  | isInteger => "ISINTEGER"
  | isDouble => "ISDOUBLE"
  | equal => "EQUAL"
  | less => "LESS"
  | lessOrEqual => "LESSOREQUAL"
  | greater => "GREATER"
  | greaterOrEqual => "GREATEROREQUAL"

/-- The function with a name, in any case. -/
def ofName? (s : String) : Option Builtin :=
  let wanted := Text.upper s
  all.find? (·.name == wanted)

/-- The names and types of a function's parameters, and the type of its result. -/
structure Signature where
  params : List (String × ValueType)
  returns : ValueType

/-- The number of parameters. -/
def Signature.arity (s : Signature) : Nat := s.params.length

/-- A function of one double. -/
def ofDouble : Signature := ⟨[("x", .double)], .double⟩

/-- A function of one string. -/
def ofString (returns : ValueType) : Signature := ⟨[("s", .string)], returns⟩

/-- A function of two strings. -/
def ofStrings : Signature := ⟨[("a", .string), ("b", .string)], .integer⟩

/-- A comparison of two doubles at a number of decimal places. -/
def ofTolerance : Signature := ⟨[("a", .double), ("b", .double), ("places", .integer)], .bool⟩

/-- The signature of a function. -/
def signature : Builtin → Signature
  | sin | asin | cos | acos | tan | atan | sinh | cosh | tanh | log | ln | exp | ceil | floor | abs
  | sqrt | sqr => ofDouble
  | pow => ⟨[("base", .double), ("exponent", .double)], .double⟩
  | mod => ⟨[("x", .double), ("y", .double)], .double⟩
  | round => ⟨[("x", .double), ("digits", .integer)], .double⟩
  | strFind | strFindCs | strCmp | strCmpCs => ofStrings
  | strLen | asc | stoi => ofString .integer
  | stof => ofString .double
  | stob | isNumber | isInteger | isDouble => ofString .bool
  | equal | less | lessOrEqual | greater | greaterOrEqual => ofTolerance

end Builtin

end DialogScript
