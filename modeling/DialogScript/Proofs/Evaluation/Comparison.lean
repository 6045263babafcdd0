import DialogScript.Proofs.Decimal.Rounding
import DialogScript.Proofs.Evaluation.Operation

/-!
Comparisons of numbers. Integers and truth values are compared as integers, and the six comparisons
of them are consistent. Where there is a double, equality computes the distance, and each order
computes one edge of the tolerance around the right operand. All of these are rounded on their own.
Two doubles within the tolerance are equal, and neither is less; beyond it, a computed distance may
still be the tolerance, and a computed edge may still be the other operand. Unless these agree, the
comparisons are not consistent: two doubles are equal and yet one of them is greater, or neither
equal nor in any order.
-/

namespace DialogScript

open Eval Decimal

namespace Operator

/-- Whether a comparison of two integers holds. -/
def comparesIntegers (m n : Int) : Operator → Bool
  | eq => m == n
  | ne => !(m == n)
  | op => Reading.orderedIntegers op m n

/-- Whether a comparison of two doubles holds, up to a tolerance. -/
def comparesDoubles (epsilon x y : Float) : Operator → Bool
  | eq => (x - y).abs <= epsilon
  | ne => !((x - y).abs <= epsilon)
  | op => Reading.orderedDoubles op x y epsilon

end Operator

/-! ## The value of a comparison -/

namespace Reading

variable {s : Scope} {span : Option Span} {op : Operator} {left right : Operand} {a b : Value}

theorem isLogical_of_isEquality (h : op.isEquality = true) : op.isLogical = false := by
  cases op <;> first | rfl | cases h

theorem isLogical_of_isOrdering (h : op.isOrdering = true) : op.isLogical = false := by
  cases op <;> first | rfl | cases h

/-- A comparison is an equality of the operands, or an order. -/
theorem binaryValue_comparison (hlogical : op.isLogical = false)
    (harithmetic : op.isArithmetic = false) (hl : (left.reading.value s).result = .ok a)
    (hr : (right.reading.value s).result = .ok b) :
    (binaryValue span op left right s).result =
      if op.isEquality then
        (equal span op a b s).result.map fun same => .bool (if op = .eq then same else !same)
      else (ordered span op a b s).result.map .bool := by
  have hplus : ¬(op = .plus ∧ (a.type = .string ∨ b.type = .string)) := by
    rintro ⟨rfl, _⟩
    cases harithmetic
  rw [binaryValue, if_neg (by simp [hlogical]), result_bind_of_ok hl, result_bind_of_ok hr,
    if_neg hplus, if_neg (by simp [harithmetic])]
  split
  · exact result_map _ _
  · exact result_map _ _

theorem binaryValue_equality {same : Bool} (ho : op.isEquality = true)
    (hl : (left.reading.value s).result = .ok a) (hr : (right.reading.value s).result = .ok b)
    (h : (equal span op a b s).result = .ok same) :
    (binaryValue span op left right s).result = .ok (.bool (if op = .eq then same else !same)) := by
  rw [binaryValue_comparison (isLogical_of_isEquality ho) (isArithmetic_of_isEquality ho) hl hr,
    if_pos ho, h]
  rfl

theorem binaryValue_ordering {holds : Bool} (ho : op.isOrdering = true)
    (hl : (left.reading.value s).result = .ok a) (hr : (right.reading.value s).result = .ok b)
    (h : (ordered span op a b s).result = .ok holds) :
    (binaryValue span op left right s).result = .ok (.bool holds) := by
  rw [binaryValue_comparison (isLogical_of_isOrdering ho) (isArithmetic_of_isOrdering ho) hl hr,
    if_neg (by simp [isEquality_of_isOrdering ho]), h]
  rfl

/-- Numbers and truth values are compared as doubles where one of them is a double. -/
theorem equal_numbers (ha : a.type.isCondition = true) (hb : b.type.isCondition = true) :
    equal span op a b =
      if a.type = .double ∨ b.type = .double then (do
        let x ← Eval.orBreak a.asNumber
        let y ← Eval.orBreak b.asNumber
        let epsilon ← Eval.epsilon
        pure ((x - y).abs <= epsilon))
      else (do
        let m ← Eval.orBreak a.asInteger
        let n ← Eval.orBreak b.asInteger
        pure (m == n)) := by
  cases a with
  | integer _ => cases b <;> first | rfl | cases hb
  | bool _ => cases b <;> first | rfl | cases hb
  | double _ => cases b <;> first | rfl | cases hb
  | _ => cases ha

theorem equal_doubles {x y : Float} (ha : a.type.isCondition = true)
    (hb : b.type.isCondition = true) (hd : a.type = .double ∨ b.type = .double)
    (hx : a.asNumber = .ok x) (hy : b.asNumber = .ok y) :
    (equal span op a b s).result = .ok ((x - y).abs <= s.epsilon) := by
  rw [equal_numbers ha hb, if_pos hd, hx, hy]
  rfl

theorem ordered_doubles {x y : Float} (ha : a.type.isCondition = true)
    (hb : b.type.isCondition = true) (hd : a.type = .double ∨ b.type = .double)
    (hx : a.asNumber = .ok x) (hy : b.asNumber = .ok y) :
    (ordered span op a b s).result = .ok (orderedDoubles op x y s.epsilon) := by
  have hnumbers : (a.type.isCondition && b.type.isCondition) = true := by rw [ha, hb]; rfl
  rw [ordered, if_pos hnumbers, if_pos hd, hx, hy]
  rfl

theorem equal_integers {m n : Int} (ha : a.type.isCondition = true)
    (hb : b.type.isCondition = true) (hd : ¬(a.type = .double ∨ b.type = .double))
    (hm : a.asInteger = .ok m) (hn : b.asInteger = .ok n) :
    (equal span op a b s).result = .ok (m == n) := by
  rw [equal_numbers ha hb, if_neg hd, hm, hn]
  rfl

theorem ordered_integers {m n : Int} (ha : a.type.isCondition = true)
    (hb : b.type.isCondition = true) (hd : ¬(a.type = .double ∨ b.type = .double))
    (hm : a.asInteger = .ok m) (hn : b.asInteger = .ok n) :
    (ordered span op a b s).result = .ok (orderedIntegers op m n) := by
  have hnumbers : (a.type.isCondition && b.type.isCondition) = true := by rw [ha, hb]; rfl
  rw [ordered, if_pos hnumbers, if_neg hd, hm, hn]
  rfl

end Reading

/-! ## Consistency -/

/-- The comparisons of two operands are consistent, with each other and with the comparisons the
other way round. -/
structure Consistent (there back : Operator → Bool) : Prop where
  one : (there .lt).toNat + (there .eq).toNat + (there .gt).toNat = 1
  le : there .le = (there .lt || there .eq)
  ge : there .ge = (there .gt || there .eq)
  ne : there .ne = !there .eq
  mirrored : there .lt = back .gt

/-- What holds of the comparisons of two operands in any case. -/
structure Coherent (answer : Operator → Bool) : Prop where
  le : answer .le = !answer .gt
  ge : answer .ge = !answer .lt
  ne : answer .ne = !answer .eq
  apart : (answer .lt && answer .gt) = false

theorem Coherent.consistent_iff {there back : Operator → Bool} (h : Coherent there) :
    Consistent there back ↔
      (there .eq = true ↔ ¬there .lt = true ∧ ¬there .gt = true) ∧
        (there .lt = true ↔ back .gt = true) := by
  obtain ⟨le, ge, ne, apart⟩ := h
  have cases_one : (there .lt).toNat + (there .eq).toNat + (there .gt).toNat = 1 ↔
      (there .eq = true ↔ ¬there .lt = true ∧ ¬there .gt = true) := by
    revert apart
    cases there .lt <;> cases there .eq <;> cases there .gt <;> decide
  constructor
  · intro hc
    exact ⟨cases_one.mp hc.one, by rw [hc.mirrored]⟩
  · rintro ⟨one, mirrored⟩
    refine ⟨cases_one.mpr one, ?_, ?_, ne, Bool.eq_iff_iff.mpr mirrored⟩
    · rw [le]
      revert one apart
      cases there .lt <;> cases there .eq <;> cases there .gt <;> decide
    · rw [ge]
      revert one apart
      cases there .lt <;> cases there .eq <;> cases there .gt <;> decide

theorem coherent_integers (m n : Int) : Coherent (Operator.comparesIntegers m n) where
  le := by
    change decide (m ≤ n) = !decide (n < m)
    rw [← decide_not, decide_eq_decide]
    omega
  ge := by
    change decide (n ≤ m) = !decide (m < n)
    rw [← decide_not, decide_eq_decide]
    omega
  ne := rfl
  apart := by
    change (decide (m < n) && decide (n < m)) = false
    rw [← Bool.decide_and, decide_eq_false_iff_not]
    omega

theorem consistent_integers (m n : Int) :
    Consistent (Operator.comparesIntegers m n) (Operator.comparesIntegers n m) := by
  rw [(coherent_integers m n).consistent_iff]
  refine ⟨?_, Iff.rfl⟩
  change (m == n) = true ↔ ¬decide (m < n) = true ∧ ¬decide (n < m) = true
  simp only [beq_iff_eq, decide_eq_true_iff]
  omega

namespace Decimal

variable {epsilon x y : Float}

/-- The exact distance of two doubles is within a tolerance. -/
def Within (epsilon x y : Float) : Prop := (units x - units y).natAbs ≤ units epsilon

/-- A double is an edge of the tolerance around another one, as it is computed. -/
def OnEdge (epsilon x y : Float) : Prop := (x == y - epsilon) = true ∨ (x == y + epsilon) = true

/-- The computed distance of two doubles is the tolerance just where each of them is an edge of the
tolerance around the other one. -/
def EdgesAgree (epsilon x y : Float) : Prop :=
  (((x - y).abs == epsilon) = true ↔ OnEdge epsilon x y) ∧
    (((x - y).abs == epsilon) = true ↔ OnEdge epsilon y x)

section
variable (hx : x.isFinite = true) (hy : y.isFinite = true) (he : epsilon.isFinite = true)
include hx hy he

/-! The comparisons, in units. -/

theorem compares_eq : Operator.comparesDoubles epsilon x y .eq = true ↔
    (roundUnits (units x - units y)).natAbs ≤ units epsilon := by
  obtain ⟨number, difference⟩ := sub_units hx hy
  change decide ((x - y).abs ≤ epsilon) = true ↔ _
  rw [decide_eq_true_iff, le_iff (isNumber_abs number) (isNumber_of_isFinite he),
    units_abs number, difference]

theorem compares_lt : Operator.comparesDoubles epsilon x y .lt = true ↔
    units x < roundUnits (units y - units epsilon) := by
  obtain ⟨number, edge⟩ := sub_units hy he
  change decide (x < y - epsilon) = true ↔ _
  rw [decide_eq_true_iff, lt_iff (isNumber_of_isFinite hx) number, edge]

theorem compares_gt : Operator.comparesDoubles epsilon x y .gt = true ↔
    roundUnits (units y + units epsilon) < units x := by
  obtain ⟨number, edge⟩ := add_units hy he
  change decide (y + epsilon < x) = true ↔ _
  rw [decide_eq_true_iff, lt_iff number (isNumber_of_isFinite hx), edge]

theorem compares_le : Operator.comparesDoubles epsilon x y .le = true ↔
    units x ≤ roundUnits (units y + units epsilon) := by
  obtain ⟨number, edge⟩ := add_units hy he
  change decide (x ≤ y + epsilon) = true ↔ _
  rw [decide_eq_true_iff, le_iff (isNumber_of_isFinite hx) number, edge]

theorem compares_ge : Operator.comparesDoubles epsilon x y .ge = true ↔
    roundUnits (units y - units epsilon) ≤ units x := by
  obtain ⟨number, edge⟩ := sub_units hy he
  change decide (y - epsilon ≤ x) = true ↔ _
  rw [decide_eq_true_iff, le_iff number (isNumber_of_isFinite hx), edge]

theorem edgesAgree_iff : EdgesAgree epsilon x y ↔
    ((roundUnits (units x - units y)).natAbs = units epsilon ↔
      units x = roundUnits (units y - units epsilon) ∨
        units x = roundUnits (units y + units epsilon)) ∧
    ((roundUnits (units x - units y)).natAbs = units epsilon ↔
      units y = roundUnits (units x - units epsilon) ∨
        units y = roundUnits (units x + units epsilon)) := by
  have number := isNumber_of_isFinite he
  have left := isNumber_of_isFinite hx
  have right := isNumber_of_isFinite hy
  obtain ⟨between, difference⟩ := sub_units hx hy
  obtain ⟨below, lower⟩ := sub_units hy he
  obtain ⟨above, upper⟩ := add_units hy he
  obtain ⟨below', lower'⟩ := sub_units hx he
  obtain ⟨above', upper'⟩ := add_units hx he
  rw [EdgesAgree, OnEdge, OnEdge, beq_iff (isNumber_abs between) number, units_abs between,
    difference, beq_iff left below, beq_iff left above, beq_iff right below', beq_iff right above',
    lower, upper, lower', upper']

theorem equal_comm : Operator.comparesDoubles epsilon x y .eq =
    Operator.comparesDoubles epsilon y x .eq := by
  rw [Bool.eq_iff_iff, compares_eq hx hy he, compares_eq hy hx he,
    roundUnits_sub_comm, Int.natAbs_neg]

theorem edgesAgree_comm : EdgesAgree epsilon x y ↔ EdgesAgree epsilon y x := by
  rw [edgesAgree_iff hx hy he, edgesAgree_iff hy hx he,
    roundUnits_sub_comm (units x), Int.natAbs_neg]
  exact and_comm

/-! Rounding never crosses a double, so a comparison is exact but where it meets a double. -/

/-- Two doubles are equal within the tolerance, and where their computed distance is the tolerance.
-/
theorem equal_iff : Operator.comparesDoubles epsilon x y .eq = true ↔
    Within epsilon x y ∨ ((x - y).abs == epsilon) = true := by
  have number := isNumber_of_isFinite he
  have tolerance := representable_units he
  obtain ⟨between, difference⟩ := sub_units hx hy
  rw [compares_eq hx hy he, beq_iff (isNumber_abs between) number, units_abs between, difference,
    Within]
  constructor
  · intro h
    by_contra hc
    rcases Int.lt_or_le (units epsilon) (units x - units y) with above | below
    · have := tolerance.le_roundUnits (Int.le_of_lt above)
      omega
    · have := tolerance.neg.roundUnits_le (z := units x - units y) (by omega)
      omega
  · rintro (h | h)
    · have := tolerance.roundUnits_le (z := units x - units y) (by omega)
      have := tolerance.neg.le_roundUnits (z := units x - units y) (by omega)
      omega
    · omega

/-- A double is less than another one beyond the tolerance, unless it is the computed edge. -/
theorem less_iff : Operator.comparesDoubles epsilon x y .lt = true ↔
    units x + units epsilon < units y ∧ (x == y - epsilon) = false := by
  have left := representable_units hx
  obtain ⟨number, edge⟩ := sub_units hy he
  rw [compares_lt hx hy he, ← Bool.not_eq_true, beq_iff (isNumber_of_isFinite hx) number, edge]
  rcases Int.lt_or_le (units x) (units y - units epsilon) with beyond | near
  · have := left.le_roundUnits (Int.le_of_lt beyond)
    omega
  · have := left.roundUnits_le near
    omega

theorem greater_iff : Operator.comparesDoubles epsilon x y .gt = true ↔
    units y + units epsilon < units x ∧ (x == y + epsilon) = false := by
  have left := representable_units hx
  obtain ⟨number, edge⟩ := add_units hy he
  rw [compares_gt hx hy he, ← Bool.not_eq_true, beq_iff (isNumber_of_isFinite hx) number, edge]
  rcases Int.lt_or_le (units y + units epsilon) (units x) with beyond | near
  · have := left.roundUnits_le (Int.le_of_lt beyond)
    omega
  · have := left.le_roundUnits near
    omega

variable (h0 : 0 ≤ units epsilon)
include h0

theorem coherent_doubles : Coherent (Operator.comparesDoubles epsilon x y) where
  le := by
    rw [Bool.eq_iff_iff, compares_le hx hy he, Bool.not_eq_true', ← Bool.not_eq_true,
      compares_gt hx hy he]
    omega
  ge := by
    rw [Bool.eq_iff_iff, compares_ge hx hy he, Bool.not_eq_true', ← Bool.not_eq_true,
      compares_lt hx hy he]
    omega
  ne := rfl
  apart := by
    rw [Bool.and_eq_false_iff, ← Bool.not_eq_true, ← Bool.not_eq_true, less_iff hx hy he,
      greater_iff hx hy he]
    by_contra hc
    push Not at hc
    have below := hc.1.1
    have above := hc.2.1
    omega

/-- Within the tolerance, two doubles are equal and in no order. -/
theorem consistent_within (h : Within epsilon x y) :
    Consistent (Operator.comparesDoubles epsilon x y) (Operator.comparesDoubles epsilon y x) := by
  have near : (units x - units y).natAbs ≤ units epsilon := h
  have equal := (equal_iff hx hy he).mpr (.inl h)
  have notLess : ¬Operator.comparesDoubles epsilon x y .lt = true := by
    intro hc
    have beyond := ((less_iff hx hy he).mp hc).1
    omega
  have notGreater : ¬Operator.comparesDoubles epsilon x y .gt = true := by
    intro hc
    have beyond := ((greater_iff hx hy he).mp hc).1
    omega
  have notGreater' : ¬Operator.comparesDoubles epsilon y x .gt = true := by
    intro hc
    have beyond := ((greater_iff hy hx he).mp hc).1
    omega
  exact (coherent_doubles hx hy he h0).consistent_iff.mpr
    ⟨iff_of_true equal ⟨notLess, notGreater⟩, iff_of_false notLess notGreater'⟩

/-- Further away, a double is above the tolerance around another one, or it is taken for its upper
edge. -/
theorem consistent_beyond (h : units y + units epsilon < units x) :
    (Consistent (Operator.comparesDoubles epsilon x y) (Operator.comparesDoubles epsilon y x) ∧
      Consistent (Operator.comparesDoubles epsilon y x) (Operator.comparesDoubles epsilon x y)) ↔
      EdgesAgree epsilon x y := by
  have left := representable_units hx
  have right := representable_units hy
  have far : units epsilon ≤ roundUnits (units x - units y) :=
    (representable_units he).le_roundUnits (by omega)
  have lower : roundUnits (units y - units epsilon) ≤ units y := right.roundUnits_le (by omega)
  have upper : roundUnits (units y + units epsilon) ≤ units x := left.roundUnits_le (by omega)
  have lower' : units y ≤ roundUnits (units x - units epsilon) := right.le_roundUnits (by omega)
  have upper' : units x ≤ roundUnits (units x + units epsilon) := left.le_roundUnits (by omega)
  rw [(coherent_doubles hx hy he h0).consistent_iff, (coherent_doubles hy hx he h0).consistent_iff,
    compares_eq hx hy he, compares_eq hy hx he, compares_lt hx hy he, compares_lt hy hx he,
    compares_gt hx hy he, compares_gt hy hx he, edgesAgree_iff hx hy he,
    roundUnits_sub_comm (units x)]
  omega

/-- The comparisons of two doubles are consistent just where they are within the tolerance or the
computed edges agree. -/
theorem consistent_doubles_iff :
    (Consistent (Operator.comparesDoubles epsilon x y) (Operator.comparesDoubles epsilon y x) ∧
      Consistent (Operator.comparesDoubles epsilon y x) (Operator.comparesDoubles epsilon x y)) ↔
      Within epsilon x y ∨ EdgesAgree epsilon x y := by
  by_cases h : Within epsilon x y
  · have h' : Within epsilon y x := by
      rw [Within] at h ⊢
      omega
    exact iff_of_true ⟨consistent_within hx hy he h0 h, consistent_within hy hx he h0 h'⟩ (.inl h)
  · rw [or_iff_right h]
    rw [Within] at h
    rcases Int.lt_or_le (units y + units epsilon) (units x) with above | _
    · exact consistent_beyond hx hy he h0 above
    · rw [and_comm, edgesAgree_comm hx hy he]
      exact consistent_beyond hy hx he h0 (by omega)

end

end Decimal

/-! ## The comparisons of two expressions -/

namespace Expr

variable {s : Scope} {l r : Expr} {a b : Value}

/-- Evaluating the comparisons of two expressions gives these truth values. -/
def Compares (s : Scope) (l r : Expr) (answer : Operator → Bool) : Prop :=
  ∀ span op, op.isEquality = true ∨ op.isOrdering = true →
    ((binary span l op r).eval s).result = .ok (.bool (answer op))

/-- The comparisons of two expressions are told by those of their values. -/
theorem compares_of_values {same : Bool} {order answer : Operator → Bool}
    (hl : (l.eval s).result = .ok a) (hr : (r.eval s).result = .ok b)
    (equality : ∀ span op, (Reading.equal span op a b s).result = .ok same)
    (ordering : ∀ span op, (Reading.ordered span op a b s).result = .ok (order op))
    (eq : answer .eq = same) (ne : answer .ne = !same)
    (other : ∀ op, op.isOrdering = true → answer op = order op) : l.Compares s r answer := by
  rintro span op (ho | ho)
  · have value : ((binary span l op r).eval s).result = _ :=
      Reading.binaryValue_equality ho hl hr (equality span op)
    cases op <;> cases ho
    · rw [eq]
      exact value
    · rw [ne]
      exact value
  · rw [other op ho]
    exact Reading.binaryValue_ordering ho hl hr (ordering span op)

theorem compares_doubles {x y : Float} (hl : (l.eval s).result = .ok a)
    (hr : (r.eval s).result = .ok b) (ha : a.type.isCondition = true)
    (hb : b.type.isCondition = true) (hd : a.type = .double ∨ b.type = .double)
    (hx : a.asNumber = .ok x) (hy : b.asNumber = .ok y) :
    l.Compares s r (Operator.comparesDoubles s.epsilon x y) := by
  refine compares_of_values hl hr (fun _ _ => Reading.equal_doubles ha hb hd hx hy)
    (fun _ _ => Reading.ordered_doubles ha hb hd hx hy) rfl rfl fun op ho => ?_
  cases op <;> first | (cases ho; done) | rfl

theorem compares_integers {m n : Int} (hl : (l.eval s).result = .ok a)
    (hr : (r.eval s).result = .ok b) (ha : a.type.isCondition = true)
    (hb : b.type.isCondition = true) (hd : ¬(a.type = .double ∨ b.type = .double))
    (hm : a.asInteger = .ok m) (hn : b.asInteger = .ok n) :
    l.Compares s r (Operator.comparesIntegers m n) := by
  refine compares_of_values hl hr (fun _ _ => Reading.equal_integers ha hb hd hm hn)
    (fun _ _ => Reading.ordered_integers ha hb hd hm hn) rfl rfl fun op ho => ?_
  cases op <;> first | (cases ho; done) | rfl

end Expr

theorem units_zero : units 0.0 = 0 := rfl

/-- What is not compared as doubles is compared as integers. -/
theorem Value.asInteger_ok {a : Value} (ha : a.type.isCondition = true) (hd : a.type ≠ .double) :
    ∃ m, a.asInteger = .ok m := by
  cases a with
  | integer n => exact ⟨n, rfl⟩
  | bool b => exact ⟨ofTruth b, rfl⟩
  | double x => exact absurd rfl hd
  | _ => cases ha

/-- The comparisons of two numbers or truth values always have a truth value; three of them deny the
others, and equality is symmetric. Integers and truth values are compared consistently. Where there
is a double, the operands are equal within the tolerance, and where their computed distance is the
tolerance; one is less or greater beyond the tolerance, unless it is the computed edge. So the
comparisons are consistent just within the tolerance and where the computed edges agree. -/
theorem comparisons_of_eval (t : SymbolTable) (epsilon : Float) (l r : Expr) (a b : Value)
    (he : epsilon.isFinite = true) (h0 : (0.0 : Float) ≤ epsilon)
    (hl : (l.eval ⟨t.lookup, epsilon⟩).result = .ok a)
    (hr : (r.eval ⟨t.lookup, epsilon⟩).result = .ok b)
    (ha : a.type.isCondition = true) (hb : b.type.isCondition = true)
    (hd : a.type = .double ∨ b.type = .double →
      ∃ x y, a.asNumber = .ok x ∧ b.asNumber = .ok y ∧ x.isFinite = true ∧ y.isFinite = true) :
    ∃ there back, l.Compares ⟨t.lookup, epsilon⟩ r there ∧ r.Compares ⟨t.lookup, epsilon⟩ l back ∧
      Coherent there ∧ there .eq = back .eq ∧
      (a.type ≠ .double → b.type ≠ .double → Consistent there back) ∧
      ∀ x y, a.type = .double ∨ b.type = .double → a.asNumber = .ok x → b.asNumber = .ok y →
        (there .eq = true ↔ Within epsilon x y ∨ ((x - y).abs == epsilon) = true) ∧
        (there .lt = true ↔
          units x + units epsilon < units y ∧ (x == y - epsilon) = false) ∧
        (there .gt = true ↔
          units y + units epsilon < units x ∧ (x == y + epsilon) = false) ∧
        (Consistent there back ∧ Consistent back there ↔
          Within epsilon x y ∨ EdgesAgree epsilon x y) := by
  have h0' : 0 ≤ units epsilon := by
    rw [← units_zero]
    exact (le_iff (isNumber_of_isFinite rfl) (isNumber_of_isFinite he)).mp h0
  by_cases hdouble : a.type = .double ∨ b.type = .double
  · obtain ⟨x, y, hx, hy, fx, fy⟩ := hd hdouble
    refine ⟨_, _, Expr.compares_doubles hl hr ha hb hdouble hx hy,
      Expr.compares_doubles hr hl hb ha hdouble.symm hy hx, coherent_doubles fx fy he h0',
      equal_comm fx fy he, fun na nb => absurd hdouble (not_or.mpr ⟨na, nb⟩), ?_⟩
    rintro x' y' - hx' hy'
    obtain rfl : x = x' := Except.ok.inj (hx.symm.trans hx')
    obtain rfl : y = y' := Except.ok.inj (hy.symm.trans hy')
    exact ⟨equal_iff fx fy he, less_iff fx fy he, greater_iff fx fy he,
      consistent_doubles_iff fx fy he h0'⟩
  · obtain ⟨na, nb⟩ := not_or.mp hdouble
    obtain ⟨m, hm⟩ := Value.asInteger_ok ha na
    obtain ⟨n, hn⟩ := Value.asInteger_ok hb nb
    refine ⟨_, _, Expr.compares_integers hl hr ha hb hdouble hm hn,
      Expr.compares_integers hr hl hb ha (fun h => hdouble h.symm) hn hm, coherent_integers m n,
      ?_, fun _ _ => consistent_integers m n, fun _ _ h => absurd h hdouble⟩
    change (m == n) = (n == m)
    exact Bool.beq_comm

/-- A table with a number of pieces and the weight of one. -/
def weightTable : SymbolTable :=
  { bindings := [("pieces", { value := .integer 3 }), ("weight", { value := .double 2.5 })] }

theorem comparisons_of_eval_weight :
    ∃ there back,
      (Expr.named none "pieces").Compares ⟨weightTable.lookup, 1e-9⟩ (.named none "weight") there ∧
      Consistent there back ∧ there .gt = true ∧ back .lt = true := by
  have three : (Value.integer 3).asNumber = .ok 3.0 := by decide +kernel
  obtain ⟨there, back, one, other, coherent, _, _, rest⟩ :=
    comparisons_of_eval weightTable 1e-9 (.named none "pieces") (.named none "weight")
      (.integer 3) (.double 2.5) rfl (by decide +kernel) rfl rfl rfl rfl
      (fun _ => ⟨3.0, 2.5, three, rfl, rfl, rfl⟩)
  have greater : there .gt = true :=
    (Value.bool.inj (Except.ok.inj ((one none .gt (.inr rfl)).symm.trans rfl)))
  have less : back .lt = true :=
    (Value.bool.inj (Except.ok.inj ((other none .lt (.inr rfl)).symm.trans rfl)))
  have agree : EdgesAgree 1e-9 3.0 2.5 :=
    ⟨iff_of_false (by decide +kernel) (not_or.mpr (by decide +kernel)),
      iff_of_false (by decide +kernel) (not_or.mpr (by decide +kernel))⟩
  exact ⟨there, back, one, ((rest 3.0 2.5 (.inr rfl) three rfl).2.2.2.mpr (.inr agree)).1,
    greater, less⟩

/-- Whether a comparison of two double literals holds, with the tolerance where none is given. -/
def holdsByDefault (x : Float) (op : Operator) (y : Float) : Except Failure Value :=
  ((Expr.binary none (.literal none (.double x)) op (.literal none (.double y))).eval
    ⟨SymbolTable.lookup {}, Scope.defaultEpsilon⟩).result

/-- At the edge of the tolerance the comparisons are not consistent. Two doubles are neither equal
nor in any order, and yet each is at most the other; and two others are equal, and yet one of them
is greater. -/
theorem comparisons_at_edge :
    (holdsByDefault 0.250000001 .lt 0.25 = .ok (.bool false) ∧
      holdsByDefault 0.250000001 .eq 0.25 = .ok (.bool false) ∧
      holdsByDefault 0.250000001 .gt 0.25 = .ok (.bool false) ∧
      holdsByDefault 0.250000001 .le 0.25 = .ok (.bool true) ∧
      holdsByDefault 0.250000001 .ge 0.25 = .ok (.bool true)) ∧
    holdsByDefault 9.313225746154784e-10 .eq (-6.867742538452173e-11) = .ok (.bool true) ∧
    holdsByDefault 9.313225746154784e-10 .gt (-6.867742538452173e-11) = .ok (.bool true) :=
  ⟨⟨rfl, rfl, rfl, rfl, rfl⟩, rfl, rfl⟩

end DialogScript
