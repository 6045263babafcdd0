import DialogScript.Text.Blank
import DialogScript.Text.UpperCase

/-!
The operators of unary and binary expressions.
-/

namespace DialogScript

open DialogScript.Text

/-- The operators, in the order of their table. -/
inductive Operator where
  | plus | minus | star | slash | eq | ne | lt | gt | le | ge | and | or
  deriving DecidableEq, Repr

namespace Operator

/-- Every operator, in table order. -/
def all : List Operator := [plus, minus, star, slash, eq, ne, lt, gt, le, ge, and, or]

/-- The name in serialized trees. -/
def name : Operator → String
  | plus => "PLUS"
  | minus => "MINUS"
  | star => "STAR"
  | slash => "SLASH"
  | eq => "EQ"
  | ne => "NE"
  | lt => "LT"
  | gt => "GT"
  | le => "LE"
  | ge => "GE"
  | and => "AND"
  | or => "OR"

/-- The script spelling. -/
def symbol : Operator → String
  | plus => "+"
  | minus => "-"
  | star => "*"
  | slash => "/"
  | eq => "=="
  | ne => "<>"
  | lt => "<"
  | gt => ">"
  | le => "<="
  | ge => ">="
  | and => "AND"
  | or => "OR"

/-- The place in the table, from one. -/
def number (op : Operator) : Nat := op.ctorIdx + 1

/-- The four operations on numbers; a plus also joins texts. -/
def isArithmetic : Operator → Bool
  | plus | minus | star | slash => true
  | _ => false

/-- Equal and unequal. -/
def isEquality : Operator → Bool
  | eq | ne => true
  | _ => false

/-- The four order comparisons. -/
def isOrdering : Operator → Bool
  | lt | gt | le | ge => true
  | _ => false

/-- The logical connectives. -/
def isLogical : Operator → Bool
  | and | or => true
  | _ => false

/-- The operator with a spelling, in any case and with blanks around it. -/
def ofSymbol? (s : String) : Option Operator :=
  let wanted := upper (trim s)
  all.find? (·.symbol == wanted)

end Operator

end DialogScript
