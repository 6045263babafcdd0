/-!
Doubles as exact numbers. A finite double is taken apart into `mantissa · 2 ^ exponent`, and a
quotient of natural numbers is rounded to the nearest double, all in exact arithmetic.
-/

namespace DialogScript.Decimal

/-- The power of two with a given exponent. -/
def twoTo (n : Nat) : Nat := Nat.pow 2 n

/-- The magnitude `mantissa · 2 ^ exponent` with a sign. -/
structure Binary where
  negative : Bool
  mantissa : Nat
  exponent : Int
  deriving DecidableEq

/-- What the bits of a double say. -/
inductive Double where
  | finite (b : Binary)
  | infinite (negative : Bool)
  | nan
  deriving DecidableEq

/-- Reads the sign, the exponent field and the fraction from the bits. -/
def Double.ofBits (bits : Nat) : Double :=
  let negative := bits / twoTo 63 % 2 == 1
  let field : Nat := bits / twoTo 52 % twoTo 11
  let fraction : Nat := bits % twoTo 52
  if field = 2047 then
    if fraction = 0 then .infinite negative else .nan
  else if field = 0 then .finite ⟨negative, fraction, -1074⟩
  else .finite ⟨negative, fraction + twoTo 52, (field : Int) - 1075⟩

/-- A double taken apart. -/
def Double.ofFloat (x : Float) : Double := Double.ofBits x.toBits.toNat

/-- `m · base ^ e` as a numerator and a denominator. -/
def ratio (m : Nat) (base : Nat) (e : Int) : Nat × Nat :=
  if 0 ≤ e then (m * Nat.pow base e.toNat, 1) else (m, Nat.pow base (-e).toNat)

/-- The integer nearest to `num / den`, a half going to the even neighbour. -/
def roundHalfEven (num den : Nat) : Nat :=
  let q := num / den
  let r := num % den
  if 2 * r < den then q
  else if den < 2 * r then q + 1
  else if q % 2 = 0 then q else q + 1

/-- The bits of the largest finite double and of infinity meet here. -/
def infinityBits : Nat := 2047 * twoTo 52

/-- The nearest double to `num / den`, a half going to the even mantissa. There is none where the
quotient rounds beyond the largest double. -/
def nearest? (num den : Nat) : Option Float :=
  if num = 0 then some 0.0
  else
    let guess : Int := max ((num.log2 : Int) - (den.log2 : Int) - 53) (-1074)
    let scaled (e : Int) : Nat × Nat :=
      if 0 ≤ e then (num, den * twoTo e.toNat) else (num * twoTo (-e).toNat, den)
    let e := if twoTo 53 * (scaled guess).2 ≤ (scaled guess).1 then guess + 1 else guess
    let bits := (e + 1074).toNat * twoTo 52 + roundHalfEven (scaled e).1 (scaled e).2
    if bits < infinityBits then some (Float.ofBits bits.toUInt64) else none

/-- A magnitude with a sign. -/
def signed (negative : Bool) (x : Float) : Float := if negative then -x else x

/-- Twice the distance to the nearest integer is at most one. -/
theorem roundHalfEven_near (num den : Nat) (h : 0 < den) :
    2 * num ≤ (2 * roundHalfEven num den + 1) * den ∧
      (2 * roundHalfEven num den) * den ≤ 2 * num + den := by
  have hdiv : den * (num / den) + num % den = num := Nat.div_add_mod num den
  have hlt : num % den < den := Nat.mod_lt num h
  have hcomm : num / den * den = den * (num / den) := Nat.mul_comm _ _
  have expand : ∀ q : Nat, (2 * q + 1) * den = 2 * (q * den) + den := by
    intro q; rw [Nat.add_mul, Nat.one_mul, Nat.mul_assoc]
  have expand' : ∀ q : Nat, 2 * q * den = 2 * (q * den) := fun q => Nat.mul_assoc 2 q den
  have succ : (num / den + 1) * den = num / den * den + den := by
    rw [Nat.add_mul, Nat.one_mul]
  unfold roundHalfEven
  dsimp only
  split
  · rw [expand, expand']; omega
  · split
    · rw [expand, expand', succ]; omega
    · split
      · rw [expand, expand']; omega
      · rw [expand, expand', succ]; omega

end DialogScript.Decimal
