import DialogScript.Number
import DialogScript.Proofs.Rendering.Written
import DialogScript.Value.Basic

/-!
Breakdowns of arithmetic. Conversions between integers and doubles and the texts of integers can
break down, but only by overflow, by a value that has no integer or no text, or by a zero divisor.
A value that is read through a reader for its own type does not break down otherwise.
-/

namespace DialogScript

/-- The breakdowns that depend on the numbers alone. -/
def Breakdown.isArithmetic (b : Breakdown) : Bool :=
  b.family == .overflow || b.family == .value || b.family == .zeroDivision

/-- A computation that can break down by arithmetic alone. -/
def Arithmetic {α : Type} (r : Except Breakdown α) : Prop :=
  ∀ b, r = .error b → b.isArithmetic = true

namespace Arithmetic

theorem ok {α : Type} (a : α) : Arithmetic (.ok a) := by
  intro b h
  cases h

theorem error {α : Type} {b : Breakdown} (h : b.isArithmetic = true) :
    Arithmetic (.error b : Except Breakdown α) := by
  intro b' e
  cases e
  exact h

theorem bind {α β : Type} {r : Except Breakdown α} {f : α → Except Breakdown β}
    (hr : Arithmetic r) (hf : ∀ a, Arithmetic (f a)) : Arithmetic (r >>= f) := by
  cases r with
  | error b => exact error (hr b rfl)
  | ok a => exact hf a

theorem map {α β : Type} {r : Except Breakdown α} (f : α → β) (hr : Arithmetic r) :
    Arithmetic (r.map f) := by
  cases r with
  | error b => exact error (hr b rfl)
  | ok a => exact ok (f a)

theorem ite {α : Type} {c : Prop} [Decidable c] {r r' : Except Breakdown α}
    (h : Arithmetic r) (h' : Arithmetic r') : Arithmetic (if c then r else r') := by
  split
  · exact h
  · exact h'

end Arithmetic

namespace Number

theorem text_arithmetic (n : Int) : Arithmetic (text n) :=
  .ite (.ok _) (.error rfl)

theorem checkWritable_arithmetic (ns : List Int) : Arithmetic (checkWritable ns) :=
  .ite (.ok _) (.error rfl)

theorem toDouble_arithmetic (n : Int) : Arithmetic (toDouble n) := by
  unfold toDouble
  split
  · exact .ok _
  · exact .error rfl

theorem integral_arithmetic (f : Decimal.Binary → Int) (x : Float) : Arithmetic (integral f x) := by
  unfold integral
  split
  · exact .error rfl
  · exact .error rfl
  · exact .ok _

theorem tenTo_arithmetic (exponent : Int) : Arithmetic (tenTo exponent) :=
  .bind (toDouble_arithmetic _) (fun _ => .ite (.error rfl) (.ok _))

theorem remainder_arithmetic (x y : Float) : Arithmetic (remainder x y) := by
  unfold remainder
  split
  · exact .ok _
  · exact .ok _
  · exact .error rfl
  · exact .ok _
  · exact .ok _

end Number

theorem Expr.text_arithmetic (e : Expr) : Arithmetic e.text := by
  intro b h
  rw [e.text_writes.eq_of_error h]
  rfl

namespace Value

theorem scalarText?_arithmetic (v : Value) : Arithmetic v.scalarText? := by
  cases v with
  | integer n => exact (Number.text_arithmetic n).map some
  | _ => exact .ok _

theorem asNumber_arithmetic {v : Value} (h : v.type.isCondition = true) :
    Arithmetic v.asNumber := by
  cases v with
  | integer n => exact Number.toDouble_arithmetic n
  | bool b => exact Number.toDouble_arithmetic _
  | double x => exact .ok x
  | _ => cases h

theorem asInteger_arithmetic {v : Value} (h : v.type.isCondition = true) (hd : v.type ≠ .double) :
    Arithmetic v.asInteger := by
  cases v with
  | integer n => exact .ok n
  | bool b => exact .ok _
  | double x => exact absurd rfl hd
  | _ => cases h

end Value

end DialogScript
