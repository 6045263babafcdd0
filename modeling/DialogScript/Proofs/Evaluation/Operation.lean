import DialogScript.Proofs.Typing.Reading

/-!
What an operator computes. The value of an arithmetic expression is a concatenation, an integer
operation or a double operation on the values of its operands, and the integer and the double
reading of the same expression carry out the operation of the operator on the readings of the
operands. The three are told apart here once, so that each pair of readings is compared by an
induction over expressions whose cases speak about numbers alone.
-/

namespace DialogScript

namespace Operator

/-- The operation of an arithmetic operator on integers. -/
def onIntegers (op : Operator) (m n : Int) : Int :=
  match op with
  | plus => m + n
  | minus => m - n
  | star => m * n
  | _ => m.tdiv n

/-- The operation of an arithmetic operator on doubles. -/
def onDoubles (op : Operator) (x y : Float) : Float :=
  match op with
  | plus => x + y
  | minus => x - y
  | star => x * y
  | _ => x / y

end Operator

namespace Eval

theorem orBreak_ok {α : Type} {s : Scope} {r : Except Breakdown α} {a : α}
    (h : (orBreak r s).result = .ok a) : r = .ok a := by
  cases r with
  | error b => cases h
  | ok a' => exact congrArg Except.ok (Except.ok.inj h)

theorem result_bind_of_ok {α β : Type} {s : Scope} {m : Eval α} {a : α}
    (h : (m s).result = .ok a) (f : α → Eval β) : ((m >>= f) s).result = (f a s).result := by
  rw [result_bind, h]
  rfl

end Eval

open Eval

namespace Reading

variable {s : Scope} {span : Option Span} {op : Operator}

theorem lookup_ok {name : String} {found : Option Value} (h : s.lookup name = found) :
    (Eval.lookup name s).result = .ok found :=
  congrArg Except.ok h

theorem boundValue_of_lookup {name : String} {v : Value} (h : s.lookup name = some v) :
    (boundValue span name s).result = .ok v := by
  rw [boundValue, result_bind_of_ok (lookup_ok h)]
  rfl

/-- The value of a name is the one bound to it, or the name itself where it is not bound. -/
theorem named_value_ok {name : String} {v : Value}
    (h : ((named span name).value s).result = .ok v) :
    (boundValue span name s).result = .ok v ∨ s.lookup name = none ∧ v = .string name := by
  obtain ⟨found, hf, h⟩ := bind_ok h
  obtain rfl : s.lookup name = found := Except.ok.inj hf
  cases hl : s.lookup name with
  | some w =>
    rw [hl] at h
    obtain rfl : w = v := Except.ok.inj h
    exact .inl (boundValue_of_lookup hl)
  | none =>
    rw [hl] at h
    obtain ⟨_, hv⟩ := unbound_ok h
    exact .inr ⟨rfl, hv.symm⟩

theorem negated_ok {a v : Value}
    (h : (negated span op a s).result = .ok v) :
    op = .minus ∧ ((∃ m, a = .integer m ∧ v = .integer (-m)) ∨
      ∃ x, a = .double x ∧ v = .double (-x)) := by
  cases a with
  | integer m =>
    rw [negated] at h
    split at h
    · next ho => exact ⟨ho, .inl ⟨m, rfl, (Except.ok.inj h).symm⟩⟩
    · cases h
  | double x =>
    rw [negated] at h
    split at h
    · next ho => exact ⟨ho, .inr ⟨x, rfl, (Except.ok.inj h).symm⟩⟩
    · cases h
  | _ => cases h

theorem integerOperation_eq (ho : op.isArithmetic = true) (m n : Int) :
    integerOperation span op (some m) (some n) =
      if op = .slash ∧ n = 0 then Eval.fail .divisionByZero span
      else pure (some (op.onIntegers m n)) := by
  cases op with
  | plus => rfl
  | minus => rfl
  | star => rfl
  | slash => simp [integerOperation, Operator.onIntegers]
  | _ => cases ho

theorem doubleOperation_eq (ho : op.isArithmetic = true) (x y : Float) :
    doubleOperation span op (some x) (some y) =
      if op = .slash ∧ (y == 0.0) = true then Eval.fail .divisionByZero span
      else pure (some (op.onDoubles x y)) := by
  cases op with
  | plus => rfl
  | minus => rfl
  | star => rfl
  | slash => simp [doubleOperation, Operator.onDoubles]
  | _ => cases ho

/-- The outcome of arithmetic is the operation on integers, if both operands are integers that are
not divided, and the operation on the widened operands otherwise. -/
theorem arithmetic_ok {a b v : Value} (ho : op.isArithmetic = true)
    (ha : a.type.isNumeric = true) (hb : b.type.isNumeric = true)
    (h : (arithmetic span op a b s).result = .ok v) :
    ∃ x y, a.asNumber = .ok x ∧ b.asNumber = .ok y ∧
      ((∃ m n, a = .integer m ∧ b = .integer n ∧ op ≠ .slash ∧
          v = .integer (op.onIntegers m n)) ∨
        ¬(op = .slash ∧ (y == 0.0) = true) ∧ v = .double (op.onDoubles x y)) := by
  obtain ⟨x, hx, h⟩ := bind_ok h
  obtain ⟨y, hy, h⟩ := bind_ok h
  refine ⟨x, y, orBreak_ok hx, orBreak_ok hy, ?_⟩
  by_cases hs : op = .slash
  · subst hs
    simp only at h
    split at h
    · cases h
    · next hz => exact .inr ⟨fun hc => hz hc.2, (Except.ok.inj h).symm⟩
  have plain : ¬(op = .slash ∧ (y == 0.0) = true) := fun hc => hs hc.1
  cases a with
  | integer m =>
    cases b with
    | integer n =>
      refine .inl ⟨m, n, rfl, rfl, hs, ?_⟩
      cases op <;> first | exact absurd rfl hs | exact (Except.ok.inj h).symm | cases ho
    | double y =>
      refine .inr ⟨plain, ?_⟩
      cases op <;> first | exact absurd rfl hs | exact (Except.ok.inj h).symm | cases ho
    | _ => cases hb
  | double x =>
    refine .inr ⟨plain, ?_⟩
    cases op <;> first | exact absurd rfl hs | exact (Except.ok.inj h).symm | cases ho
  | _ => cases ha

/-- The value of an arithmetic expression joins texts where one of its operands is a string, and is
a number otherwise. -/
theorem binaryValue_ok {left right : Operand} {v : Value} (ho : op.isArithmetic = true)
    (h : (binaryValue span op left right s).result = .ok v) :
    ∃ a b, (left.reading.value s).result = .ok a ∧ (right.reading.value s).result = .ok b ∧
      ((op = .plus ∧ (a.type = .string ∨ b.type = .string) ∧
          ∃ text, (concatenated left right s).result = .ok text ∧ v = .string text) ∨
        a.type.isNumeric = true ∧ b.type.isNumeric = true ∧
          (arithmetic span op a b s).result = .ok v) := by
  rw [binaryValue, if_neg (by simp [isLogical_of_isArithmetic ho])] at h
  obtain ⟨a, ha, h⟩ := bind_ok h
  obtain ⟨b, hb, h⟩ := bind_ok h
  refine ⟨a, b, ha, hb, ?_⟩
  split at h
  · next hc =>
    obtain ⟨text, ht, hv⟩ := map_ok h
    exact .inl ⟨hc.1, hc.2, text, ht, hv.symm⟩
  · split at h
    · next hn =>
      simp only [Bool.and_eq_true] at hn
      exact .inr ⟨hn.1, hn.2, h⟩
    · cases h

end Reading

end DialogScript
