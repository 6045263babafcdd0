import DialogScript.Proofs.Evaluation.Operation

/-!
The integer reading agrees with the value, and is exact. The integer reading of a sum adds the
integer readings of the operands, while its value widens the operands, and keeps the integers only
where both are integers; so the two agree wherever the value is an integer. On expressions made of
integers and truth values alone, the integer reading is the value that the expression denotes over
unbounded integers, with quotients rounded toward zero, and there is none just where some divisor
is zero.
-/

namespace DialogScript

open Eval

namespace Number

/-- The quotient toward zero, told by its remainder: smaller than the divisor, and zero or of the
sign of the dividend. -/
theorem tdiv_eq_iff {a b q : Int} (hb : b ≠ 0) :
    a.tdiv b = q ↔
      ∃ m, a = b * q + m ∧ m.natAbs < b.natAbs ∧ (m = 0 ∨ m.sign = a.sign) := by
  constructor
  · rintro rfl
    refine ⟨a.tmod b, (Int.mul_tdiv_add_tmod a b).symm, ?_, ?_⟩
    · rw [Int.natAbs_tmod]
      exact Nat.mod_lt _ (Int.natAbs_pos.mpr hb)
    · have hs := Int.sign_tmod a b
      split at hs
      · exact .inl (Int.sign_eq_zero_iff_zero.mp hs)
      · exact .inr hs
  · rintro ⟨m, he, hlt, hs⟩
    -- the sign of the remainder follows that of the dividend in both directions
    rcases Int.le_total 0 a with ha | ha
    · have hm : 0 ≤ m := by
        rcases hs with rfl | hs
        · exact Int.le_refl 0
        · rw [← Int.sign_nonneg_iff, hs]
          exact Int.sign_nonneg_iff.mpr ha
      exact ((Int.tdiv_tmod_unique ha hb).mpr ⟨by omega, hm, by omega⟩).1
    · have hm : m ≤ 0 := by
        rcases hs with rfl | hs
        · exact Int.le_refl 0
        · rw [← Int.sign_nonpos_iff, hs]
          exact Int.sign_nonpos_iff.mpr ha
      exact ((Int.tdiv_tmod_unique' ha hb).mpr ⟨by omega, by omega, hm⟩).1

end Number

namespace Reading

variable {s : Scope} {v : Value} {n : Int}

/-- Where the value decides, the integer is that of the value. -/
theorem integer_ofValue {e : Expr} {value : Eval Value} (hv : v.asInteger = .ok n)
    (h : (value s).result = .ok v) : ((value >>= integerOf e) s).result = .ok (some n) := by
  rw [result_bind_of_ok h]
  cases v with
  | integer m =>
    obtain rfl : m = n := Except.ok.inj hv
    rfl
  | bool b =>
    obtain rfl : Value.ofTruth b = n := Except.ok.inj hv
    rfl
  | _ => cases hv

theorem integer_named {span : Option Span} {name : String} (hv : v.asInteger = .ok n)
    (h : ((named span name).value s).result = .ok v) :
    ((named span name).integer s).result = .ok (some n) := by
  rcases named_value_ok h with hb | ⟨_, rfl⟩
  · exact integer_ofValue hv hb
  · cases hv

theorem integer_negation {span : Option Span} {operand : Operand} {m : Int}
    (h : (operand.reading.integer s).result = .ok (some m)) :
    ((unary span .minus operand).integer s).result = .ok (some (-m)) := by
  simp only [unary, if_true, result_bind, h]
  rfl

theorem integer_unary {span : Option Span} {op : Operator} {operand : Operand}
    (ih : ∀ m, (operand.reading.value s).result = .ok (.integer m) →
      (operand.reading.integer s).result = .ok (some m))
    (hv : v.asInteger = .ok n) (h : ((unary span op operand).value s).result = .ok v) :
    ((unary span op operand).integer s).result = .ok (some n) := by
  obtain ⟨a, ha, h⟩ := bind_ok h
  rcases negated_ok h with ⟨rfl, ⟨m, rfl, rfl⟩ | ⟨x, _, rfl⟩⟩
  · obtain rfl : -m = n := Except.ok.inj hv
    exact integer_negation (ih m ha)
  · cases hv

theorem integer_arithmetic {span : Option Span} {op : Operator} {left right : Operand}
    (ho : op.isArithmetic = true) {l r : Option Int}
    (hl : (left.reading.integer s).result = .ok l)
    (hr : (right.reading.integer s).result = .ok r) :
    ((binary span left op right).integer s).result = (integerOperation span op l r s).result := by
  simp only [binary, if_pos ho, result_bind, hl, hr]
  rfl

/-- Arithmetic that is read as an integer, or as none, has operands that are read so. -/
theorem integer_arithmetic_ok {span : Option Span} {op : Operator} {left right : Operand}
    {found : Option Int} (ho : op.isArithmetic = true)
    (h : ((binary span left op right).integer s).result = .ok found) :
    ∃ l r, (left.reading.integer s).result = .ok l ∧ (right.reading.integer s).result = .ok r ∧
      (integerOperation span op l r s).result = .ok found := by
  simp only [binary, if_pos ho] at h
  obtain ⟨l, hl, h⟩ := bind_ok h
  obtain ⟨r, hr, h⟩ := bind_ok h
  exact ⟨l, r, hl, hr, h⟩

theorem integer_binary {span : Option Span} {op : Operator} {left right : Operand}
    (ihl : ∀ m, (left.reading.value s).result = .ok (.integer m) →
      (left.reading.integer s).result = .ok (some m))
    (ihr : ∀ m, (right.reading.value s).result = .ok (.integer m) →
      (right.reading.integer s).result = .ok (some m))
    (hv : v.asInteger = .ok n) (h : (binaryValue span op left right s).result = .ok v) :
    ((binary span left op right).integer s).result = .ok (some n) := by
  by_cases ho : op.isArithmetic = true
  · obtain ⟨a, b, ha, hb, hv'⟩ := binaryValue_ok ho h
    rcases hv' with ⟨_, _, text, _, rfl⟩ | ⟨hna, hnb, hv'⟩
    · cases hv
    obtain ⟨x, y, _, _, hxy⟩ := arithmetic_ok ho hna hnb hv'
    rcases hxy with ⟨p, q, rfl, rfl, hs, rfl⟩ | ⟨_, rfl⟩
    · obtain rfl : op.onIntegers p q = n := Except.ok.inj hv
      rw [integer_arithmetic ho (ihl p ha) (ihr q hb), integerOperation_eq ho,
        if_neg (fun hc => hs hc.1)]
      rfl
    · cases hv
  · simp only [binary, if_neg ho]
    exact integer_ofValue hv h

end Reading

namespace Expr

variable {s : Scope}

/-- An expression whose value is an integer or a truth value is read as that integer. -/
theorem integer_of_value {v : Value} {n : Int} (hv : v.asInteger = .ok n) : ∀ e : Expr,
    (e.reading.value s).result = .ok v → (e.reading.integer s).result = .ok (some n)
  | absent, h => by cases h
  | literal _ _, h => Reading.integer_ofValue hv h
  | constant _ _ _, h => Reading.integer_ofValue hv h
  | named _ _, h => Reading.integer_named hv h
  | unary _ _ operand, h =>
    Reading.integer_unary (fun m hm => integer_of_value (v := .integer m) rfl operand hm) hv h
  | binary _ left _ right, h =>
    Reading.integer_binary (fun m hm => integer_of_value (v := .integer m) rfl left hm)
      (fun m hm => integer_of_value (v := .integer m) rfl right hm) hv h
  | call _ _ _, h => Reading.integer_ofValue hv h
  | index _ _ _, h => Reading.integer_ofValue hv h
  | entry _ _ _, h => Reading.integer_ofValue hv h
  | member _ _ _, h => Reading.integer_ofValue hv h

/-! ## Whole-number expressions -/

/-- Expressions made of integers, truth values and arithmetic. -/
inductive IsIntegral (lookup : String → Option Value) : Expr → Prop
  | integer (span : Option Span) (n : Whole) : IsIntegral lookup (.literal span (.integer n))
  | truth (span : Option Span) (b : Bool) : IsIntegral lookup (.literal span (.bool b))
  | boundInteger (span : Option Span) {name : String} {n : Int} :
      lookup name = some (.integer n) → IsIntegral lookup (.named span name)
  | boundTruth (span : Option Span) {name : String} {b : Bool} :
      lookup name = some (.bool b) → IsIntegral lookup (.named span name)
  | negation (span : Option Span) {e : Expr} :
      IsIntegral lookup e → IsIntegral lookup (.unary span .minus e)
  | operation (span : Option Span) {op : Operator} {l r : Expr} : op.isArithmetic = true →
      IsIntegral lookup l → IsIntegral lookup r → IsIntegral lookup (.binary span l op r)

/-- The integer that an expression denotes. A truth value is one or zero, and the quotient of a
division is the one that leaves a remainder smaller than the divisor, which is zero or has the sign
of the dividend. -/
inductive Denotes (lookup : String → Option Value) : Expr → Int → Prop
  | integer (span : Option Span) (n : Whole) :
      Denotes lookup (.literal span (.integer n)) n.toInt
  | truth (span : Option Span) (b : Bool) :
      Denotes lookup (.literal span (.bool b)) (if b then 1 else 0)
  | boundInteger (span : Option Span) {name : String} {n : Int} :
      lookup name = some (.integer n) → Denotes lookup (.named span name) n
  | boundTruth (span : Option Span) {name : String} {b : Bool} :
      lookup name = some (.bool b) → Denotes lookup (.named span name) (if b then 1 else 0)
  | negation (span : Option Span) {e : Expr} {n : Int} :
      Denotes lookup e n → Denotes lookup (.unary span .minus e) (-n)
  | sum (span : Option Span) {l r : Expr} {a b : Int} :
      Denotes lookup l a → Denotes lookup r b → Denotes lookup (.binary span l .plus r) (a + b)
  | difference (span : Option Span) {l r : Expr} {a b : Int} :
      Denotes lookup l a → Denotes lookup r b → Denotes lookup (.binary span l .minus r) (a - b)
  | product (span : Option Span) {l r : Expr} {a b : Int} :
      Denotes lookup l a → Denotes lookup r b → Denotes lookup (.binary span l .star r) (a * b)
  | quotient (span : Option Span) {l r : Expr} {a b q m : Int} :
      Denotes lookup l a → Denotes lookup r b →
      a = b * q + m → m.natAbs < b.natAbs → m = 0 ∨ m.sign = a.sign →
      Denotes lookup (.binary span l .slash r) q

/-- Some divisor in an expression denotes zero. -/
inductive DividesByZero (lookup : String → Option Value) : Expr → Prop
  | negation (span : Option Span) {e : Expr} :
      DividesByZero lookup e → DividesByZero lookup (.unary span .minus e)
  | left (span : Option Span) {op : Operator} {l : Expr} (r : Expr) : op.isArithmetic = true →
      DividesByZero lookup l → DividesByZero lookup (.binary span l op r)
  | right (span : Option Span) {op : Operator} (l : Expr) {r : Expr} : op.isArithmetic = true →
      DividesByZero lookup r → DividesByZero lookup (.binary span l op r)
  | divisor (span : Option Span) (l : Expr) {r : Expr} :
      Denotes lookup r 0 → DividesByZero lookup (.binary span l .slash r)

theorem integer_of_operation {span : Option Span} {op : Operator} {l r : Expr} {a b : Int}
    (ho : op.isArithmetic = true) (hz : ¬(op = .slash ∧ b = 0))
    (hl : (l.reading.integer s).result = .ok (some a))
    (hr : (r.reading.integer s).result = .ok (some b)) :
    ((Expr.binary span l op r).reading.integer s).result = .ok (some (op.onIntegers a b)) := by
  calc ((Expr.binary span l op r).reading.integer s).result
      = (Reading.integerOperation span op (some a) (some b) s).result :=
        Reading.integer_arithmetic ho hl hr
    _ = .ok (some (op.onIntegers a b)) := by
        rw [Reading.integerOperation_eq ho, if_neg hz]
        rfl

/-- The integer reading is the integer that the expression denotes. -/
theorem integer_of_denotes {e : Expr} {n : Int} (h : Denotes s.lookup e n) :
    (e.reading.integer s).result = .ok (some n) := by
  induction h with
  | integer span n => rfl
  | truth span b => rfl
  | boundInteger span hl =>
    exact Reading.integer_ofValue rfl (Reading.boundValue_of_lookup hl)
  | boundTruth span hl =>
    exact Reading.integer_ofValue rfl (Reading.boundValue_of_lookup hl)
  | negation span _ ih => exact Reading.integer_negation ih
  | sum span _ _ ihl ihr => exact integer_of_operation rfl (by simp) ihl ihr
  | difference span _ _ ihl ihr => exact integer_of_operation rfl (by simp) ihl ihr
  | product span _ _ ihl ihr => exact integer_of_operation rfl (by simp) ihl ihr
  | @quotient span l r a b q m _ _ he hlt hs ihl ihr =>
    have hb : b ≠ 0 := by
      rintro rfl
      simp at hlt
    obtain rfl := (Number.tdiv_eq_iff hb).mpr ⟨m, he, hlt, hs⟩
    exact integer_of_operation rfl (fun hc => hb hc.2) ihl ihr

/-- An expression with a divisor that denotes zero is read as no integer. -/
theorem integer_of_dividesByZero {e : Expr} (h : DividesByZero s.lookup e) (n : Option Int) :
    (e.reading.integer s).result ≠ .ok n := by
  induction h generalizing n with
  | @negation span e _ ih =>
    intro hn
    simp only [reading, Reading.unary, if_true] at hn
    obtain ⟨m, hm, _⟩ := bind_ok hn
    exact ih m hm
  | @left span op l r ho _ ih =>
    intro hn
    obtain ⟨a, _, ha, _, _⟩ := Reading.integer_arithmetic_ok ho hn
    exact ih a ha
  | @right span op l r ho _ ih =>
    intro hn
    obtain ⟨_, b, _, hb, _⟩ := Reading.integer_arithmetic_ok ho hn
    exact ih b hb
  | @divisor span l r hr =>
    intro hn
    obtain ⟨a, b, _, hb, hn⟩ := Reading.integer_arithmetic_ok rfl hn
    rw [integer_of_denotes hr] at hb
    obtain rfl : some 0 = b := Except.ok.inj hb
    cases a with
    | none => cases hn
    | some a => cases hn

/-- A whole-number expression denotes an integer, or some divisor in it denotes zero and it is read
with a division by zero. -/
theorem denotes_or_dividesByZero {e : Expr} (h : IsIntegral s.lookup e) :
    (∃ n, Denotes s.lookup e n) ∨ DividesByZero s.lookup e ∧
      ∃ span, (e.reading.integer s).result = .error (.error ⟨.divisionByZero, span⟩) := by
  induction h with
  | integer span n => exact .inl ⟨_, .integer span n⟩
  | truth span b => exact .inl ⟨_, .truth span b⟩
  | boundInteger span hl => exact .inl ⟨_, .boundInteger span hl⟩
  | boundTruth span hl => exact .inl ⟨_, .boundTruth span hl⟩
  | negation span _ ih =>
    rcases ih with ⟨n, hn⟩ | ⟨hz, at', he⟩
    · exact .inl ⟨-n, .negation span hn⟩
    · refine .inr ⟨.negation span hz, at', ?_⟩
      simp only [reading, Reading.unary, if_true, result_bind, he]
      rfl
  | @operation span op l r ho _ _ ihl ihr =>
    rcases ihl with ⟨a, ha⟩ | ⟨hz, at', he⟩
    · rcases ihr with ⟨b, hb⟩ | ⟨hz, at', he⟩
      · cases op with
        | plus => exact .inl ⟨a + b, .sum span ha hb⟩
        | minus => exact .inl ⟨a - b, .difference span ha hb⟩
        | star => exact .inl ⟨a * b, .product span ha hb⟩
        | slash =>
          by_cases hz : b = 0
          · subst hz
            refine .inr ⟨.divisor span l hb, span, ?_⟩
            calc ((Expr.binary span l .slash r).reading.integer s).result
                = (Reading.integerOperation span .slash (some a) (some 0) s).result :=
                  Reading.integer_arithmetic rfl (integer_of_denotes ha) (integer_of_denotes hb)
              _ = .error (.error ⟨.divisionByZero, span⟩) := rfl
          · obtain ⟨m, he, hlt, hs⟩ := (Number.tdiv_eq_iff hz).mp (rfl : a.tdiv b = a.tdiv b)
            exact .inl ⟨a.tdiv b, .quotient span ha hb he hlt hs⟩
        | _ => cases ho
      · refine .inr ⟨.right span l ho hz, at', ?_⟩
        simp only [reading, Reading.binary, if_pos ho, result_bind, he, integer_of_denotes ha]
        rfl
    · refine .inr ⟨.left span r ho hz, at', ?_⟩
      simp only [reading, Reading.binary, if_pos ho, result_bind, he]
      rfl

end Expr

/-- Read as an integer, an expression gives the integer or the truth value that it has as its value;
and one made of integers, truth values and arithmetic gives the integer it denotes over unbounded
integers, unless some divisor in it denotes zero, which is a division by zero. -/
theorem evalInteger_of_eval (t : SymbolTable) (epsilon : Float) (e : Expr) :
    (∀ n, (e.eval ⟨t.lookup, epsilon⟩).result = .ok (.integer n) →
      (e.evalInteger ⟨t.lookup, epsilon⟩).result = .ok (some n)) ∧
    (∀ b, (e.eval ⟨t.lookup, epsilon⟩).result = .ok (.bool b) →
      (e.evalInteger ⟨t.lookup, epsilon⟩).result = .ok (some (if b then 1 else 0))) ∧
    (e.IsIntegral t.lookup →
      (∀ n, (e.evalInteger ⟨t.lookup, epsilon⟩).result = .ok (some n) ↔ e.Denotes t.lookup n) ∧
      ((∃ f, (e.evalInteger ⟨t.lookup, epsilon⟩).result = .error (.error f) ∧
        f.problem.code = "E304") ↔ e.DividesByZero t.lookup) ∧
      (e.DividesByZero t.lookup ∨ ∃ n, e.Denotes t.lookup n)) := by
  refine ⟨fun n h => Expr.integer_of_value rfl e h, fun b h => Expr.integer_of_value rfl e h, ?_⟩
  intro hi
  rcases Expr.denotes_or_dividesByZero (s := ⟨t.lookup, epsilon⟩) hi with ⟨m, hm⟩ | ⟨hz, at', he⟩
  · have read : (e.evalInteger ⟨t.lookup, epsilon⟩).result = .ok (some m) :=
      Expr.integer_of_denotes hm
    refine ⟨fun n => ⟨fun hn => ?_, fun hn => Expr.integer_of_denotes hn⟩, ⟨?_, ?_⟩, .inr ⟨m, hm⟩⟩
    · rw [read] at hn
      obtain rfl : m = n := Option.some.inj (Except.ok.inj hn)
      exact hm
    · rintro ⟨f, hf, _⟩
      rw [read] at hf
      cases hf
    · intro hz
      exact absurd read (Expr.integer_of_dividesByZero (s := ⟨t.lookup, epsilon⟩) hz (some m))
  · have read : (e.evalInteger ⟨t.lookup, epsilon⟩).result =
        .error (.error ⟨.divisionByZero, at'⟩) := he
    refine ⟨fun n => ⟨fun hn => ?_, fun hn => Expr.integer_of_denotes hn⟩, ?_, .inl hz⟩
    · rw [read] at hn
      cases hn
    · exact ⟨fun _ => hz, fun _ => ⟨_, read, rfl⟩⟩

/-- A table with an integer that no double is and a truth value. -/
def countTable : SymbolTable :=
  { bindings := [("count", { value := .integer 9007199254740993 }),
      ("doubled", { value := .bool true })] }

/-- Half of a negated count, toward zero, and the count again where it is doubled. -/
def halfCount : Expr :=
  .binary none
    (.binary none (.unary none .minus (.named none "count")) .slash
      (.literal none (.integer (.number 2))))
    .plus (.binary none (.named none "doubled") .star (.named none "count"))

/-- The count without one. -/
def lastCount : Expr :=
  .binary none (.named none "count") .minus (.literal none (.integer (.number 1)))

theorem evalInteger_of_eval_count :
    (lastCount.eval ⟨countTable.lookup, 1e-9⟩).result = .ok (.integer 9007199254740992) ∧
    (lastCount.evalInteger ⟨countTable.lookup, 1e-9⟩).result = .ok (some 9007199254740992) ∧
    ((Expr.named none "doubled").eval ⟨countTable.lookup, 1e-9⟩).result = .ok (.bool true) ∧
    ((Expr.named none "doubled").evalInteger ⟨countTable.lookup, 1e-9⟩).result = .ok (some 1) ∧
    halfCount.IsIntegral countTable.lookup ∧
    halfCount.Denotes countTable.lookup 4503599627370497 ∧
    (halfCount.evalInteger ⟨countTable.lookup, 1e-9⟩).result = .ok (some 4503599627370497) := by
  have last : (lastCount.eval ⟨countTable.lookup, 1e-9⟩).result =
    .ok (.integer 9007199254740992) := rfl
  have integral : halfCount.IsIntegral countTable.lookup :=
    .operation none rfl
      (.operation none rfl (.negation none (.boundInteger none rfl)) (.integer none _))
      (.operation none rfl (.boundTruth none rfl) (.boundInteger none rfl))
  have half : halfCount.Denotes countTable.lookup (-4503599627370496 + 1 * 9007199254740993) :=
    .sum none
      (.quotient (m := -1) none (.negation none (.boundInteger none rfl))
        (.integer none (.number 2)) (by decide) (by decide) (by decide))
      (.product none (.boundTruth (b := true) none rfl) (.boundInteger none rfl))
  refine ⟨last, (evalInteger_of_eval countTable 1e-9 lastCount).1 _ last, rfl,
    (evalInteger_of_eval countTable 1e-9 (.named none "doubled")).2.1 true rfl, integral, half, ?_⟩
  exact (((evalInteger_of_eval countTable 1e-9 halfCount).2.2 integral).1 4503599627370497).mpr half

end DialogScript
