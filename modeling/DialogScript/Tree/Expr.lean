import DialogScript.Data.Display
import DialogScript.Operator
import DialogScript.Source
import DialogScript.Value.Basic

/-!
Expressions and their script text. A slot of a tree that may hold an expression may also be empty;
the empty slot is an expression of its own, and its text is empty. An expression with an integer of
too many digits has no text: writing it breaks down.
-/

namespace DialogScript

/-- A whole number as a tree writes it: a number, or a truth value in its place. -/
inductive Whole where
  | number (n : Int)
  | truth (b : Bool)
  deriving DecidableEq

namespace Whole

/-- The number; a truth value is one or zero. -/
def toInt : Whole → Int
  | number n => n
  | truth b => Value.ofTruth b

/-- The data it was written as. -/
def toData : Whole → Data
  | number n => .int n
  | truth b => .bool b

end Whole

/-- The literals of expressions. -/
inductive Literal where
  | integer (n : Whole)
  | double (x : Float)
  | string (s : String)
  | bool (b : Bool)

/-- Expressions. Each carries the place where it stands, if known; `absent` is an empty slot. -/
inductive Expr where
  | absent
  | literal (span : Option Span) (value : Literal)
  | constant (span : Option Span) (name : String) (value : Float)
  | named (span : Option Span) (name : String)
  | unary (span : Option Span) (op : Operator) (operand : Expr)
  | binary (span : Option Span) (left : Expr) (op : Operator) (right : Expr)
  | call (span : Option Span) (function : String) (args : List Expr)
  | index (span : Option Span) (base index : Expr)
  | entry (span : Option Span) (map : Expr) (key : String)
  | member (span : Option Span) (struct : Expr) (name : String)

namespace Expr

instance : Inhabited Expr := ⟨absent⟩

/-- Whether a slot is empty. -/
def isAbsent : Expr → Bool
  | absent => true
  | _ => false

/-- Where an expression stands. -/
def span : Expr → Option Span
  | absent => none
  | literal s _ | constant s _ _ | named s _ | unary s _ _ | binary s _ _ _ | call s _ _
  | index s _ _ | entry s _ _ | member s _ _ => s

/-- Whether a value can be assigned to an expression of this form. -/
def isAssignable : Expr → Bool
  | named .. | index .. | entry .. | member .. => true
  | _ => false

/-- The text of a literal. -/
def literalText : Literal → Except Breakdown String
  | .integer (.number n) => Number.text n
  | .integer (.truth b) => .ok (Data.bool b).plain
  | .double x => .ok (Value.doubleText x)
  | .string s => .ok ("\"" ++ s ++ "\"")
  | .bool b => .ok (if b then "TRUE" else "FALSE")

mutual

/-- The script text of an expression. Binary expressions stand in brackets. -/
def text : Expr → Except Breakdown String
  | absent => .ok ""
  | literal _ value => literalText value
  | constant _ name _ => .ok name
  | named _ name => .ok name
  | unary _ _ operand => do
    let s ← text operand
    .ok ("-" ++ s)
  | binary _ left op right => do
    let a ← text left
    let b ← text right
    .ok ("(" ++ a ++ " " ++ op.symbol ++ " " ++ b ++ ")")
  | call _ function args => do
    let parts ← texts args
    .ok (function ++ "(" ++ ", ".intercalate parts ++ ")")
  | index _ base i => do
    let a ← text base
    let b ← text i
    .ok (a ++ "[" ++ b ++ "]")
  | entry _ map key => do
    let a ← text map
    .ok (a ++ "." ++ key)
  | member _ struct name => do
    let a ← text struct
    .ok (a ++ "." ++ name)

/-- The script texts of some expressions. -/
def texts : List Expr → Except Breakdown (List String)
  | [] => .ok []
  | e :: rest => do
    let s ← text e
    let others ← texts rest
    .ok (s :: others)

end

end Expr

end DialogScript
