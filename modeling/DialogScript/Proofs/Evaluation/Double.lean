import DialogScript.Proofs.Decimal.Exact
import DialogScript.Proofs.Evaluation.Operation

/-!
The double reading next to the value. Read as a double, an expression widens every integer in it
before it computes, while its value is computed on integers as long as both operands are integers
and widened then. The double reading of an expression whose value is a number is therefore a double
again, or divides by what has become zero; and it is the widened value itself wherever the operands
of the integer operations are doubles exactly, since then both round the same integer, and once.
-/

namespace DialogScript

open Eval Decimal

namespace Number

/-- Nothing is lost of the operands of an integer operation when they are widened before it: both
are doubles, and a product that is zero has no negative factor, which would make it the negative
zero. -/
structure Lossless (op : Operator) (m n : Int) : Prop where
  left : IsDouble m
  right : IsDouble n
  zero : op = .star → m * n = 0 → 0 ≤ m ∧ 0 ≤ n

/-- Widening the result of a lossless operation is the operation on the widened operands: both round
the same integer. -/
theorem Lossless.onDoubles_eq {op : Operator} {m n : Int} {x y z : Float}
    (h : Lossless op m n) (ho : op.isArithmetic = true) (hs : op ≠ .slash)
    (hx : toDouble m = .ok x) (hy : toDouble n = .ok y)
    (hz : toDouble (op.onIntegers m n) = .ok z) : op.onDoubles x y = z := by
  have left : Widened x m := widened_of_toDouble hx
  have right : Widened y n := widened_of_toDouble hy
  have result : Widened z (op.onIntegers m n) := widened_of_toDouble hz
  cases op with
  | plus => exact left.add right h.left h.right result
  | minus => exact left.sub right h.left h.right result
  | star => exact left.mul right h.left h.right result (h.zero rfl)
  | slash => exact absurd rfl hs
  | _ => cases ho

/-- Where a changed sign can be widened, so can the integer itself. -/
theorem toDouble_of_neg {n : Int} {x : Float} (h : toDouble (-n) = .ok x) :
    ∃ y, toDouble n = .ok y ∧ (n ≠ 0 → -y = x) := by
  by_cases hn : n = 0
  · subst hn
    exact ⟨x, h, fun hc => absurd rfl hc⟩
  · have hy : toDouble n = .ok (-x) := by
      have := toDouble_neg (Int.neg_ne_zero.mpr hn) h
      rwa [Int.neg_neg] at this
    refine ⟨-x, hy, fun _ => ?_⟩
    have hback : toDouble (-n) = .ok (- -x) := toDouble_neg hn hy
    rw [h] at hback
    exact (Except.ok.inj hback).symm

end Number

namespace Reading

variable {s : Scope} {span : Option Span} {v : Value} {x : Float}

/-- A reading gives a double, or fails with a division by zero. -/
def GivesDouble (s : Scope) (m : Eval (Option Float)) : Prop :=
  (∃ x, (m s).result = .ok (some x)) ∨
    ∃ span, (m s).result = .error (.error ⟨.divisionByZero, span⟩)

theorem GivesDouble.of_result {m : Eval (Option Float)} {P : Prop}
    (h : (m s).result = .ok (some x)) :
    GivesDouble s m ∧ (P → (m s).result = .ok (some x)) :=
  ⟨.inl ⟨x, h⟩, fun _ => h⟩

/-- Where the value decides, the double is that of the value. -/
theorem double_ofValue {e : Expr} {value : Eval Value} (hn : v.type.isNumeric = true)
    (hx : v.asNumber = .ok x) (h : (value s).result = .ok v) :
    ((value >>= doubleOf e) s).result = .ok (some x) := by
  rw [result_bind_of_ok h]
  cases v with
  | integer n =>
    have widened : Number.toDouble n = .ok x := hx
    simp only [doubleOf, widened]
    rfl
  | double y =>
    obtain rfl : y = x := Except.ok.inj hx
    rfl
  | _ => cases hn

theorem double_named {name : String} (hn : v.type.isNumeric = true) (hx : v.asNumber = .ok x)
    (h : ((named span name).value s).result = .ok v) :
    ((named span name).double s).result = .ok (some x) := by
  rcases named_value_ok h with hb | ⟨_, rfl⟩
  · exact double_ofValue hn hx hb
  · cases hn

theorem double_negation {operand : Operand} {y : Float}
    (h : (operand.reading.double s).result = .ok (some y)) :
    ((unary span .minus operand).double s).result = .ok (some (-y)) := by
  simp only [unary, if_true, result_bind, h]
  rfl

theorem GivesDouble.negation {operand : Operand} (h : GivesDouble s operand.reading.double) :
    GivesDouble s (unary span .minus operand).double := by
  rcases h with ⟨y, hy⟩ | ⟨at', hf⟩
  · exact .inl ⟨-y, double_negation hy⟩
  · refine .inr ⟨at', ?_⟩
    simp only [unary, if_true, result_bind, hf]
    rfl

theorem double_arithmetic (span : Option Span) {op : Operator} {left right : Operand}
    {y z : Float} (ho : op.isArithmetic = true) (hl : (left.reading.double s).result = .ok (some y))
    (hr : (right.reading.double s).result = .ok (some z)) :
    ((binary span left op right).double s).result =
      if op = .slash ∧ (z == 0.0) = true then .error (.error ⟨.divisionByZero, span⟩)
      else .ok (some (op.onDoubles y z)) := by
  calc ((binary span left op right).double s).result
      = (doubleOperation span op (some y) (some z) s).result := by
        simp only [binary, if_pos ho, result_bind, hl, hr]
        rfl
    _ = _ := by
        rw [doubleOperation_eq ho]
        split <;> rfl

theorem GivesDouble.arithmetic {op : Operator} {left right : Operand}
    (ho : op.isArithmetic = true) (hl : GivesDouble s left.reading.double)
    (hr : GivesDouble s right.reading.double) :
    GivesDouble s (binary span left op right).double := by
  rcases hl with ⟨y, hy⟩ | ⟨at', hf⟩
  · rcases hr with ⟨z, hz⟩ | ⟨at', hf⟩
    · have outcome := double_arithmetic span ho hy hz
      split at outcome
      · exact .inr ⟨span, outcome⟩
      · exact .inl ⟨_, outcome⟩
    · refine .inr ⟨at', ?_⟩
      simp only [binary, if_pos ho, result_bind, hy, hf]
      rfl
  · refine .inr ⟨at', ?_⟩
    simp only [binary, if_pos ho, result_bind, hf]
    rfl

end Reading

namespace Expr

variable {s : Scope}

/-- No operation on integers that an expression carries out on its way to a number loses anything
by widening: no integer zero changes its sign, and sums, differences and products are lossless. -/
def StaysExact (s : Scope) : Expr → Prop
  | unary _ .minus e => e.StaysExact s ∧ (e.eval s).result ≠ .ok (.integer 0)
  | binary _ l op r => op.isArithmetic = true →
      l.StaysExact s ∧ r.StaysExact s ∧
      ∀ m n, (l.eval s).result = .ok (.integer m) → (r.eval s).result = .ok (.integer n) →
        op ≠ .slash → Number.Lossless op m n
  | _ => True

/-- An expression whose value is a number is read as a double, or with a division by zero; and if
it stays exact, it is read as its widened value. -/
theorem double_of_value : ∀ (e : Expr) {v : Value} {x : Float},
    (e.reading.value s).result = .ok v → v.type.isNumeric = true → v.asNumber = .ok x →
    Reading.GivesDouble s e.reading.double ∧
      (e.StaysExact s → (e.reading.double s).result = .ok (some x))
  | absent, _, _, h, _, _ => by cases h
  | literal _ _, _, _, h, hn, hx =>
    Reading.GivesDouble.of_result (Reading.double_ofValue hn hx h)
  | constant _ _ _, _, _, h, hn, hx =>
    Reading.GivesDouble.of_result (Reading.double_ofValue hn hx h)
  | named _ _, _, _, h, hn, hx =>
    Reading.GivesDouble.of_result (Reading.double_named hn hx h)
  | call _ _ _, _, _, h, hn, hx =>
    Reading.GivesDouble.of_result (Reading.double_ofValue hn hx h)
  | index _ _ _, _, _, h, hn, hx =>
    Reading.GivesDouble.of_result (Reading.double_ofValue hn hx h)
  | entry _ _ _, _, _, h, hn, hx =>
    Reading.GivesDouble.of_result (Reading.double_ofValue hn hx h)
  | member _ _ _, _, _, h, hn, hx =>
    Reading.GivesDouble.of_result (Reading.double_ofValue hn hx h)
  | unary span op operand, v, x, h, hn, hx => by
    obtain ⟨a, ha, hv⟩ := bind_ok h
    rcases Reading.negated_ok hv with ⟨rfl, ⟨m, rfl, rfl⟩ | ⟨y, rfl, rfl⟩⟩
    · obtain ⟨y, hy, hneg⟩ := Number.toDouble_of_neg hx
      obtain ⟨given, exactly⟩ := double_of_value operand ha rfl hy
      refine ⟨given.negation, fun ⟨he, hz⟩ => ?_⟩
      have hm : m ≠ 0 := by
        rintro rfl
        exact hz ha
      rw [← hneg hm]
      exact Reading.double_negation (exactly he)
    · obtain rfl : -y = x := Except.ok.inj hx
      obtain ⟨given, exactly⟩ := double_of_value operand (v := .double y) ha rfl rfl
      exact ⟨given.negation, fun ⟨he, _⟩ => Reading.double_negation (exactly he)⟩
  | binary span left op right, v, x, h, hn, hx => by
    by_cases ho : op.isArithmetic = true
    · obtain ⟨a, b, ha, hb, hv⟩ := Reading.binaryValue_ok ho h
      rcases hv with ⟨_, _, text, _, rfl⟩ | ⟨hna, hnb, hv⟩
      · cases hn
      obtain ⟨y, z, hy, hz, hv⟩ := Reading.arithmetic_ok ho hna hnb hv
      obtain ⟨givenLeft, exactLeft⟩ := double_of_value left ha hna hy
      obtain ⟨givenRight, exactRight⟩ := double_of_value right hb hnb hz
      refine ⟨givenLeft.arithmetic ho givenRight, fun he => ?_⟩
      obtain ⟨hel, her, lossless⟩ := he ho
      have outcome : ((binary span left op right).reading.double s).result = _ :=
        Reading.double_arithmetic span ho (exactLeft hel) (exactRight her)
      rw [outcome]
      rcases hv with ⟨m, n, rfl, rfl, hs, rfl⟩ | ⟨hdiv, rfl⟩
      · have lost := lossless m n ha hb hs
        rw [if_neg (fun hc => hs hc.1), lost.onDoubles_eq ho hs hy hz hx]
      · obtain rfl : op.onDoubles y z = x := Except.ok.inj hx
        rw [if_neg hdiv]
    · have read : ((binary span left op right).reading.double s).result = .ok (some x) := by
        simp only [reading, Reading.binary, if_neg ho]
        exact Reading.double_ofValue hn hx h
      exact Reading.GivesDouble.of_result read

end Expr

/-- An expression whose value is a double is read as a double, or fails with a division by zero; and
it is read as exactly its value, if no operation on integers in it loses anything by widening. -/
theorem evalDouble_of_eval (t : SymbolTable) (epsilon : Float) (e : Expr) (x : Float)
    (h : (e.eval ⟨t.lookup, epsilon⟩).result = .ok (.double x)) :
    ((∃ y, (e.evalDouble ⟨t.lookup, epsilon⟩).result = .ok (some y)) ∨
      ∃ f, (e.evalDouble ⟨t.lookup, epsilon⟩).result = .error (.error f) ∧
        f.problem.code = "E304") ∧
    (e.StaysExact ⟨t.lookup, epsilon⟩ →
      (e.evalDouble ⟨t.lookup, epsilon⟩).result = .ok (some x)) := by
  obtain ⟨given, exactly⟩ := e.double_of_value (s := ⟨t.lookup, epsilon⟩) h rfl rfl
  refine ⟨?_, exactly⟩
  rcases given with hy | ⟨at', hf⟩
  · exact .inl hy
  · exact .inr ⟨_, hf, rfl⟩

/-- A table with a count and a price. -/
def priceTable : SymbolTable :=
  { bindings := [("count", { value := .integer 9007199254740992 }),
      ("price", { value := .double 0.25 })] }

/-- The price of one more than the count, as a debt. One more than the count is no double. -/
def debt : Expr :=
  .binary none
    (.unary none .minus
      (.binary none (.named none "count") .plus (.literal none (.integer (.number 1)))))
    .star (.named none "price")

theorem evalDouble_of_eval_debt :
    (debt.eval ⟨priceTable.lookup, 1e-9⟩).result = .ok (.double (-2251799813685248.0)) ∧
    debt.StaysExact ⟨priceTable.lookup, 1e-9⟩ ∧
    (debt.evalDouble ⟨priceTable.lookup, 1e-9⟩).result = .ok (some (-2251799813685248.0)) := by
  have value : (debt.eval ⟨priceTable.lookup, 1e-9⟩).result =
    .ok (.double (-2251799813685248.0)) := rfl
  have sum : Number.Lossless .plus 9007199254740992 1 :=
    ⟨⟨1, 53, by decide, by decide⟩, ⟨1, 0, by decide, by decide⟩, fun h => by cases h⟩
  have exact' : debt.StaysExact ⟨priceTable.lookup, 1e-9⟩ := by
    refine fun _ => ⟨⟨fun _ => ⟨trivial, trivial, ?_⟩, ?_⟩, trivial, ?_⟩
    · intro m n hm hn _
      cases hm
      cases hn
      exact sum
    · intro h
      cases h
    · intro m n _ hn
      cases hn
  exact ⟨value, exact', (evalDouble_of_eval priceTable 1e-9 debt _ value).2 exact'⟩

/-- The difference of two neighbours that one double stands for. -/
def neighbours : Expr :=
  .binary none (.literal none (.integer (.number 9007199254740993))) .minus
    (.literal none (.integer (.number 9007199254740992)))

/-- An integer zero with a changed sign. -/
def negatedZero : Expr := .unary none .minus (.literal none (.integer (.number 0)))

/-- A product of integers that is zero and has a negative factor. -/
def zeroProduct : Expr :=
  .binary none (.literal none (.integer (.number 0))) .star
    (.unary none .minus (.literal none (.integer (.number 5))))

/-- The double with the value of an integer expression. -/
def timesOne (e : Expr) : Expr := .binary none e .star (.literal none (.double 1.0))

/-- The inverse of an integer expression. -/
def oneOver (e : Expr) : Expr := .binary none (.literal none (.double 1.0)) .slash e

/-- The difference of the neighbours is one, but the double reading has lost it before it subtracts:
a product with it is another double, and a quotient divides by zero. A zero of integers is the
positive zero, but widened first it takes the sign of a negative factor or of a changed sign. -/
theorem evalDouble_differs_from_eval :
    let s : Scope := ⟨SymbolTable.lookup {}, 1e-9⟩
    (((timesOne neighbours).eval s).result = .ok (.double 1.0) ∧
      ((timesOne neighbours).evalDouble s).result = .ok (some 0.0)) ∧
    (((oneOver neighbours).eval s).result = .ok (.double (1.0 / 1.0)) ∧
      ((oneOver neighbours).evalDouble s).result = .error (.error ⟨.divisionByZero, none⟩)) ∧
    (((timesOne zeroProduct).eval s).result = .ok (.double 0.0) ∧
      ((timesOne zeroProduct).evalDouble s).result = .ok (some (-0.0))) ∧
    (((timesOne negatedZero).eval s).result = .ok (.double 0.0) ∧
      ((timesOne negatedZero).evalDouble s).result = .ok (some (-0.0))) ∧
    (0.0 : Float) ≠ 1.0 ∧ (0.0 : Float) ≠ -0.0 :=
  ⟨⟨rfl, rfl⟩, ⟨rfl, rfl⟩, ⟨rfl, rfl⟩, ⟨rfl, rfl⟩, by decide +kernel, by decide +kernel⟩

end DialogScript
