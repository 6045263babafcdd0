import DialogScript.Builtin.Basic
import DialogScript.Builtin.Error
import DialogScript.Numeral.Real
import DialogScript.Text.Search
import DialogScript.Value.Basic

/-!
What the built-in functions compute. Arguments arrive with the types of the signature. A function
refuses arguments outside its domain; scaling by powers of ten can break down instead.
-/

namespace DialogScript

/-- How a call of a built-in function fails. -/
inductive CallFailure where
  | refused (e : BuiltinError)
  | broken (b : Breakdown)

namespace Builtin

open DialogScript.Text

/-- What a call gives. -/
abbrev CallResult : Type := Except CallFailure Value

/-- Passes a breakdown of scaling on. -/
def orBroken {α : Type} : Except Breakdown α → Except CallFailure α
  | .ok a => .ok a
  | .error b => .error (.broken b)

/-- Turns a breakdown at the given arguments into a refusal. -/
def orRefused (f : Builtin) (args : List Float) : Except Breakdown Float → CallResult
  | .ok x => .ok (.double x)
  | .error b => .error (.refused (.rejected f.name args b))

/-- The value of a function of one double. A result that is no number for an argument that is one
lies outside the domain, and so does an infinite result for a finite argument, unless the function
grows beyond every bound. -/
def checked (f : Float → Float) (growing : Bool) (x : Float) : Except Breakdown Float :=
  let y := f x
  if y.isNaN && !x.isNaN then .error .outsideDomain
  else if y.isInf && x.isFinite then .error (if growing then .outsideRange else .outsideDomain)
  else .ok y

/-- A logarithm, defined above zero. -/
def logarithm (f : Float → Float) (x : Float) : Except Breakdown Float :=
  if x.isNaN || x > 0.0 then .ok (f x) else .error .outsideDomain

/-- A power. At zero an infinite result lies outside the domain. -/
def power (x y : Float) : Except Breakdown Float :=
  let z := Float.pow x y
  if x.isFinite && y.isFinite && !z.isFinite then
    if z.isNaN || x == 0.0 then .error .outsideDomain else .error .outsideRange
  else .ok z

/-- An integral double. -/
def integralDouble (f : Float → Except Breakdown Int) (x : Float) : Except Breakdown Float := do
  let n ← f x
  Number.toDouble n

/-- The functions of one double. -/
def unary? : Builtin → Option (Float → Except Breakdown Float)
  | sin => some (checked Float.sin false)
  | asin => some (checked Float.asin false)
  | cos => some (checked Float.cos false)
  | acos => some (checked Float.acos false)
  | tan => some (checked Float.tan false)
  | atan => some (checked Float.atan false)
  | sinh => some (checked Float.sinh true)
  | cosh => some (checked Float.cosh true)
  | tanh => some (checked Float.tanh false)
  | log => some (logarithm Float.log10)
  | ln => some (logarithm Float.log)
  | exp => some (checked Float.exp true)
  | ceil => some (integralDouble Number.ceiling)
  | floor => some (integralDouble Number.floor)
  | abs => some fun x => .ok x.abs
  | sqrt => some (checked Float.sqrt false)
  | sqr => some fun x => .ok (x * x)
  | _ => none

/-- The remainder of a division, the divisor not being zero. -/
def modulo (x y : Float) : CallResult :=
  if y == 0.0 then .error (.refused .moduloZero)
  else orBroken ((Number.remainder x y).map Value.double)

/-- The integer at `x` scaled and shifted by one half, scaled back. -/
def scaleBack (n : Int) (factor : Float) : Except Breakdown Float := do
  let y ← Number.toDouble n
  if factor == 0.0 then .error .zeroScale else .ok (y / factor)

/-- Rounds to a number of decimal places, a half going away from zero. -/
def roundTo (x : Float) (digits : Int) : Except Breakdown Float := do
  let factor ← Number.tenTo digits
  if x >= 0.0 then
    let n ← Number.floor (x * factor + 0.5)
    scaleBack n factor
  else
    let n ← Number.floor (-x * factor + 0.5)
    scaleBack (-n) factor

/-- Half a unit of the last of some decimal places. -/
def tolerance (places : Int) : Except Breakdown Float := do
  let unit ← Number.tenTo (-places)
  .ok (0.5 * unit)

/-- Compares two doubles with a tolerance. -/
def within (test : Float → Bool) (places : Int) : CallResult :=
  orBroken ((tolerance places).map fun t => Value.bool (test t))

/-- The words for true. -/
def trueWords : List String := ["TRUE", "YES", "ON", "1"]

/-- The words for false. -/
def falseWords : List String := ["FALSE", "NO", "OFF", "0"]

/-- The truth value that a word stands for. -/
def truth? (s : String) : Option Bool :=
  let word := upper (trim s)
  if word ∈ trueWords then some true else if word ∈ falseWords then some false else none

/-- The code of the first character, or zero. -/
def firstCode (s : String) : Nat := (s.toList.head?.map Char.toNat).getD 0

/-- The functions of strings. -/
def onStrings (f : Builtin) (args : List Value) : CallResult :=
  match f, args with
  | strFind, [.string a, .string b] => .ok (.integer (position (upper b) (upper a)))
  | strFindCs, [.string a, .string b] => .ok (.integer (position b a))
  | strCmp, [.string a, .string b] => .ok (.integer (compare (upper a) (upper b)))
  | strCmpCs, [.string a, .string b] => .ok (.integer (compare a b))
  | strLen, [.string s] => .ok (.integer s.length)
  | asc, [.string s] => .ok (.integer (firstCode s))
  | stof, [.string s] =>
    match Numeral.finiteReal? s with
    | some x => .ok (.double x)
    | none => .error (.refused (.notNumber s))
  | stoi, [.string s] =>
    match Numeral.integer? s with
    | some n => .ok (.integer n)
    | none => .error (.refused (.notInteger s))
  | stob, [.string s] =>
    match truth? s with
    | some b => .ok (.bool b)
    | none => .error (.refused (.notBoolean s))
  | isNumber, [.string s] => .ok (.bool (Numeral.finiteReal? s).isSome)
  | isInteger, [.string s] => .ok (.bool (Numeral.integer? s).isSome)
  | isDouble, [.string s] =>
    .ok (.bool ((Numeral.integer? s).isNone && (Numeral.finiteReal? s).isSome))
  | _, _ => .error (.broken .outsideDomain)

/-- Calls a built-in function. -/
def call (f : Builtin) (args : List Value) : CallResult :=
  match f.unary?, f, args with
  | some g, _, [.double x] => orRefused f [x] (g x)
  | _, pow, [.double x, .double y] => orRefused f [x, y] (power x y)
  | _, mod, [.double x, .double y] => modulo x y
  | _, round, [.double x, .integer digits] => orBroken ((roundTo x digits).map Value.double)
  | _, equal, [.double a, .double b, .integer places] => within (fun t => (a - b).abs <= t) places
  | _, less, [.double a, .double b, .integer places] => within (fun t => a < b - t) places
  | _, lessOrEqual, [.double a, .double b, .integer places] => within (fun t => a <= b + t) places
  | _, greater, [.double a, .double b, .integer places] => within (fun t => a > b + t) places
  | _, greaterOrEqual, [.double a, .double b, .integer places] =>
    within (fun t => a >= b - t) places
  | _, f, args => f.onStrings args

end Builtin

end DialogScript
