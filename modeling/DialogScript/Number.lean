import DialogScript.Decimal.Binary
import DialogScript.Numeral.Integer
import DialogScript.Problem.Breakdown

/-!
Arithmetic between integers and doubles: conversions that can break down, exact integral parts, and
remainders; and the texts of integers, which break down on too many digits.
-/

namespace DialogScript.Number

open DialogScript.Decimal

/-- The decimal text of an integer, unless it has too many digits. -/
def text (n : Int) : Except Breakdown String :=
  if Numeral.isWritable n then .ok (toString n) else .error .longIntegerText

/-- Whether some integers can be written; a breakdown if not. -/
def checkWritable (ns : List Int) : Except Breakdown Unit :=
  if ns.all Numeral.isWritable then .ok () else .error .longIntegerText

/-- The nearest double to an integer, unless it is beyond the largest. -/
def toDouble (n : Int) : Except Breakdown Float :=
  match nearest? n.natAbs 1 with
  | some x => .ok (signed (n < 0) x)
  | none => .error .integerTooLarge

/-- The integer that `f` finds for a finite double. -/
def integral (f : Binary → Int) (x : Float) : Except Breakdown Int :=
  match Double.ofFloat x with
  | .nan => .error .undefinedInteger
  | .infinite _ => .error .infiniteInteger
  | .finite b => .ok (f b)

/-- The integer below a binary number, or the number itself. -/
def floorOf (b : Binary) : Int :=
  let m : Int := if b.negative then -(b.mantissa : Int) else b.mantissa
  if 0 ≤ b.exponent then m * twoTo b.exponent.toNat else m.fdiv (twoTo (-b.exponent).toNat)

/-- The integer next to a binary number on the side of zero, or the number itself. -/
def truncateOf (b : Binary) : Int :=
  let m : Int := if b.negative then -(b.mantissa : Int) else b.mantissa
  if 0 ≤ b.exponent then m * twoTo b.exponent.toNat else m.tdiv (twoTo (-b.exponent).toNat)

/-- The integer above a binary number, or the number itself. -/
def ceilingOf (b : Binary) : Int := -floorOf { b with negative := !b.negative }

/-- The integral part of a double, toward zero. -/
def truncate : Float → Except Breakdown Int := integral truncateOf

/-- The largest integer that is at most a double. -/
def floor : Float → Except Breakdown Int := integral floorOf

/-- The least integer that is at least a double. -/
def ceiling : Float → Except Breakdown Int := integral ceilingOf

/-- A power of ten as a double; zero where it is too small, and a breakdown where it is too
large. -/
def tenTo (exponent : Int) : Except Breakdown Float := do
  let e ← toDouble exponent
  let power := Float.pow 10.0 e
  if power.isInf then .error .powerTooLarge else .ok power

/-- The remainder of two finite numbers, with the sign of the first: what is left of `x` after whole
multiples of `y`. -/
def remainderOf (x y : Binary) : Float :=
  let e := min x.exponent y.exponent
  let a := x.mantissa * twoTo (x.exponent - e).toNat
  let b := y.mantissa * twoTo (y.exponent - e).toNat
  let r := ratio (a % b) 2 e
  signed x.negative ((nearest? r.1 r.2).getD 0.0)

/-- The remainder of two doubles, the second not being zero. An infinite first number has none. -/
def remainder (x y : Float) : Except Breakdown Float :=
  match Double.ofFloat x, Double.ofFloat y with
  | .nan, _ => .ok x
  | _, .nan => .ok y
  | .infinite _, _ => .error .outsideDomain
  | .finite _, .infinite _ => .ok x
  | .finite a, .finite b => .ok (remainderOf a b)

/-- Integer division toward zero. -/
def quotient (a b : Int) : Except Breakdown Int :=
  if b = 0 then .error .zeroDivisor else .ok (a.tdiv b)

end DialogScript.Number
