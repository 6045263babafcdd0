import DialogScript.Decimal.Binary

/-!
The fewest decimal digits that read back to a double. On the grids of one, two, … seventeen digits
the two neighbours of the value are tried in turn; the first grid with a neighbour that rounds to
the value wins, and of two such neighbours the nearer; half-way between them, the even one.
-/

namespace DialogScript.Decimal

/-- The magnitude `digits · 10 ^ exponent`. -/
structure Digits where
  digits : Nat
  exponent : Int
  deriving DecidableEq

/-- Whether `m · 10 ^ e` is at most `num / den`. -/
def gridLe (m : Nat) (e : Int) (num den : Nat) : Bool :=
  let g := ratio m 10 e
  g.1 * den ≤ num * g.2

/-- The exponent of the leading digit of `num / den`: `10 ^ e` is at most the value, and
`10 ^ (e + 1)` is above it. -/
def leadingExponent (num den : Nat) : Int :=
  let guess := Int.fdiv (((num.log2 : Int) - (den.log2 : Int) - 1) * 30103) 100000
  if !gridLe 1 guess num den then guess - 1
  else if gridLe 1 (guess + 1) num den then guess + 1
  else guess

/-- The real numbers that round to a double, as ends over a common scale: from
`low · 2 ^ (exponent - 2)` to `high · 2 ^ (exponent - 2)`, both ends included for an even
mantissa. -/
def roundingInterval (b : Binary) : Nat × Nat :=
  let low := if b.mantissa = twoTo 52 ∧ -1074 < b.exponent then 4 * b.mantissa - 1
    else 4 * b.mantissa - 2
  (low, 4 * b.mantissa + 2)

/-- Whether `d · 10 ^ e` rounds to the double. -/
def roundsTo (b : Binary) (d : Nat) (e : Int) : Bool :=
  let (low, high) := roundingInterval b
  let g := ratio d 10 e
  let s := ratio 1 2 (b.exponent - 2)
  let below := low * s.1 * g.2
  let above := high * s.1 * g.2
  let value := g.1 * s.2
  if b.mantissa % 2 = 0 then below ≤ value && value ≤ above
  else below < value && value < above

/-- The candidate on the grid `10 ^ e`, if a neighbour of the value there rounds to it. -/
def onGrid? (b : Binary) (e : Int) : Option Digits :=
  let (num, den) := ratio b.mantissa 2 b.exponent
  let step := ratio 1 10 e
  let q := num * step.2 / (den * step.1)
  let r := num * step.2 % (den * step.1)
  let lowerFits := roundsTo b q e
  let upperFits := roundsTo b (q + 1) e
  let lowerNearer := 2 * r < den * step.1 || (2 * r == den * step.1 && q % 2 == 0)
  if lowerFits && (!upperFits || lowerNearer) then some ⟨q, e⟩
  else if upperFits then some ⟨q + 1, e⟩
  else none

/-- Removes the zeros at the end of the digits, at most `fuel` of them. -/
def Digits.dropZeros (d : Digits) : Nat → Digits
  | 0 => d
  | fuel + 1 =>
    if d.digits ≠ 0 ∧ d.digits % 10 = 0 then dropZeros ⟨d.digits / 10, d.exponent + 1⟩ fuel else d

/-- The number of decimal places a double's digits can need. -/
def maxDigits : Nat := 17

/-- The fewest digits that round to a positive double. -/
def shortest (b : Binary) : Digits :=
  let (num, den) := ratio b.mantissa 2 b.exponent
  let lead := leadingExponent num den
  match (List.range maxDigits).findSome? fun (n : Nat) => onGrid? b (lead - n) with
  | some d => d.dropZeros maxDigits
  | none => ⟨b.mantissa, b.exponent⟩

/-- A found candidate rounds to the double it stands for. -/
theorem roundsTo_of_onGrid? {b : Binary} {e : Int} {d : Digits} (h : onGrid? b e = some d) :
    roundsTo b d.digits d.exponent = true := by
  unfold onGrid? at h
  dsimp only at h
  split at h
  · next hl =>
    obtain ⟨hl, -⟩ := Bool.and_eq_true_iff.1 hl
    obtain rfl := Option.some.inj h
    exact hl
  · split at h
    · next hu =>
      obtain rfl := Option.some.inj h
      exact hu
    · exact absurd h (by simp)

end DialogScript.Decimal
