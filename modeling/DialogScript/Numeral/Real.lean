import DialogScript.Decimal.Binary
import DialogScript.Numeral.Integer

/-!
Reading real numbers. A numeral is a sign and either a word for infinity or for no number, or digits
with an optional point and an optional exponent; the nearest double is taken.
-/

namespace DialogScript.Numeral

open DialogScript.Text
open DialogScript.Decimal

/-- Infinity, in double precision. -/
def infinity : Float := Float.ofBits infinityBits.toUInt64

/-- The double that is no number. -/
def notANumber : Float := Float.ofBits (infinityBits + twoTo 51).toUInt64

/-- The nearest double to `digits · 10 ^ exponent`, infinite beyond the largest. A magnitude far out
of range is settled before any power is taken. -/
def nearestDecimal (digits : Nat) (exponent : Int) : Float :=
  if digits = 0 then 0.0
  else
    let lead := exponent + (Nat.toDigits 10 digits).length
    if 400 < lead then infinity
    else if lead < -400 then 0.0
    else
      let r := ratio digits 10 exponent
      (nearest? r.1 r.2).getD infinity

/-- Digits before and after a point, and what follows; a point may stand before or after the
digits. -/
def fraction (s : List Char) : List Nat × List Nat × List Char :=
  let (whole, rest) := digitGroup s
  match rest with
  | '.' :: after =>
    let (part, rest) := digitGroup after
    (whole, part, rest)
  | rest => (whole, [], rest)

/-- An exponent, or zero where none stands. -/
def exponent? (s : List Char) : Option Int :=
  match s with
  | [] => some 0
  | c :: rest =>
    if c = 'e' ∨ c = 'E' then
      let (negative, body) := sign rest
      let (ds, after) := digitGroup body
      if ds = [] ∨ after ≠ [] then none
      else some (if negative then -(ofDigits ds : Int) else ofDigits ds)
    else none

/-- Reads a magnitude. -/
def magnitude? (s : List Char) : Option Float :=
  let word := String.ofList (s.map Char.toLower)
  if word = "inf" ∨ word = "infinity" then some infinity
  else if word = "nan" then some notANumber
  else
    let (whole, part, rest) := fraction s
    if whole = [] ∧ part = [] then none
    else (exponent? rest).map fun e => nearestDecimal (ofDigits (whole ++ part)) (e - part.length)

/-- Reads a real number with spacing around it. -/
def real? (s : String) : Option Float :=
  let (negative, body) := sign (trimBy isSpacing s.toList)
  (magnitude? body).map (signed negative)

/-- Reads a finite real number with any blanks around it. -/
def finiteReal? (s : String) : Option Float :=
  (real? (trim s)).filter Float.isFinite

end DialogScript.Numeral
