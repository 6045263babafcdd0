import DialogScript.Decimal.Shortest

/-!
How doubles are written. The natural form has the fewest digits that read back, always with a point
or an exponent; the significant form rounds to a number of significant digits and drops zeros at the
end; the fixed form has a set number of places.
-/

namespace DialogScript.Decimal

/-- A text of zeros. -/
def zeros (n : Nat) : String := String.ofList (List.replicate n '0')

/-- The decimal digits of a number. -/
def digitText (n : Nat) : String := String.ofList (Nat.toDigits 10 n)

/-- Digits around a point that stands `point` places after the first digit; an integral value ends
in `tail`. -/
def positional (digits : String) (point : Int) (tail : String) : String :=
  if point ≤ 0 then "0." ++ zeros (-point).toNat ++ digits
  else if digits.length ≤ point.toNat then digits ++ zeros (point.toNat - digits.length) ++ tail
  else String.ofList (digits.toList.take point.toNat) ++ "."
    ++ String.ofList (digits.toList.drop point.toNat)

/-- One digit, a point, the others, and an exponent of at least two digits with its sign. -/
def scientific (digits : String) (exponent : Int) : String :=
  let head := String.ofList (digits.toList.take 1)
  let rest := String.ofList (digits.toList.drop 1)
  let size := digitText exponent.natAbs
  head ++ (if rest = "" then "" else "." ++ rest)
    ++ (if exponent < 0 then "e-" else "e+") ++ zeros (2 - size.length) ++ size

/-- The sign in front of a magnitude. -/
def signText (negative : Bool) : String := if negative then "-" else ""

/-- The natural form: the fewest digits that read back, positional where the leading digit stands
between `10 ^ -4` and `10 ^ 15`. -/
def natural (x : Float) : String :=
  match Double.ofFloat x with
  | .nan => "nan"
  | .infinite negative => if negative then "-inf" else "inf"
  | .finite b =>
    if b.mantissa = 0 then signText b.negative ++ "0.0"
    else
      let d := shortest b
      let digits := digitText d.digits
      let lead := d.exponent + digits.length - 1
      signText b.negative ++
        if -4 ≤ lead ∧ lead < 16 then positional digits (lead + 1) ".0"
        else scientific digits lead

/-- A positive magnitude rounded to `places` significant digits. -/
def roundedTo (places : Nat) (num den : Nat) : Digits :=
  let e := leadingExponent num den - places + 1
  let step := ratio 1 10 e
  (⟨roundHalfEven (num * step.2) (den * step.1), e⟩ : Digits).dropZeros (places + 1)

/-- The significant form: at most `places` significant digits, positional where the leading digit
stands between `10 ^ -4` and the last significant place. -/
def significant (places : Nat) (x : Float) : String :=
  match Double.ofFloat x with
  | .nan => "nan"
  | .infinite negative => if negative then "-inf" else "inf"
  | .finite b =>
    if b.mantissa = 0 then signText b.negative ++ "0"
    else
      let (num, den) := ratio b.mantissa 2 b.exponent
      let d := roundedTo places num den
      let digits := digitText d.digits
      let lead := d.exponent + digits.length - 1
      signText b.negative ++
        if -4 ≤ lead ∧ lead < places then positional digits (lead + 1) ""
        else scientific digits lead

/-- The fixed form: exactly `places` digits after the point. -/
def fixed (places : Nat) (x : Float) : String :=
  match Double.ofFloat x with
  | .nan => "nan"
  | .infinite negative => if negative then "-inf" else "inf"
  | .finite b =>
    let (num, den) := ratio b.mantissa 2 b.exponent
    let digits := digitText (roundHalfEven (num * Nat.pow 10 places) den)
    let padded := zeros (places + 1 - digits.length) ++ digits
    signText b.negative ++ positional padded (padded.length - places) ""

end DialogScript.Decimal
