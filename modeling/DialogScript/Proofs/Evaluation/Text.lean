import DialogScript.Proofs.Evaluation.Operation

/-!
The text reading agrees with the value. Read as a text, a sum joins the texts of its operands where
its form shows that one of them is a text, without asking for their values; the value of a sum joins
them where one of the values is a string. What is a text by its form has a string as its value, if
it has a value at all, so the two ways never part: the text of an expression with a scalar value is
the text of that value. Only a value without a text makes a difference, and among the scalars those
are the integers with too many digits.
-/

namespace DialogScript

open Eval

namespace Value

/-- A scalar has a text, unless it is an integer with too many digits. -/
theorem scalarText?_scalar {v : Value} (h : v.type.isScalar = true) :
    (∃ text, v.scalarText? = .ok (some text)) ∨
      ∃ n, v = .integer n ∧ Numeral.isWritable n = false ∧
        v.scalarText? = .error .longIntegerText := by
  cases v with
  | integer n =>
    simp only [scalarText?, Number.text]
    cases hw : Numeral.isWritable n with
    | true => exact .inl ⟨toString n, rfl⟩
    | false => exact .inr ⟨n, rfl, hw, rfl⟩
  | double x => exact .inl ⟨_, rfl⟩
  | string text => exact .inl ⟨text, rfl⟩
  | bool b => exact .inl ⟨_, rfl⟩
  | _ => cases h

end Value

namespace Reading

variable {s : Scope} {v : Value}

theorem textOf_scalar (e : Expr) (h : v.type.isScalar = true) :
    (textOf e v s).result = (Eval.orBreak v.scalarText? s).result := by
  rcases Value.scalarText?_scalar h with ⟨text, ht⟩ | ⟨n, _, _, ht⟩ <;>
    simp only [textOf, ht] <;> rfl

/-- Where the value decides, the text is that of the value. -/
theorem text_ofValue {e : Expr} {value : Eval Value} (h : (value s).result = .ok v)
    (hs : v.type.isScalar = true) :
    ((value >>= textOf e) s).result = (Eval.orBreak v.scalarText? s).result := calc
  ((value >>= textOf e) s).result = (textOf e v s).result := result_bind_of_ok h (textOf e)
  _ = (Eval.orBreak v.scalarText? s).result := textOf_scalar e hs

theorem named_text_of_lookup (span : Option Span) {name : String} (h : s.lookup name = some v) :
    ((named span name).text s).result =
      (Eval.orBreak v.scalarText? s).result.map fun text => some (text.getD name) := by
  rw [named, result_bind_of_ok (lookup_ok h)]
  exact result_map _ _

theorem named_text_of_unbound (span : Option Span) {name : String} (h : s.lookup name = none) :
    ((named span name).text s).result = .ok (some name) := by
  rw [named, result_bind_of_ok (lookup_ok h)]
  rfl

theorem text_named {span : Option Span} {name : String}
    (h : ((named span name).value s).result = .ok v) (hs : v.type.isScalar = true) :
    ((named span name).text s).result = (Eval.orBreak v.scalarText? s).result := by
  rcases named_value_ok h with hb | ⟨hl, rfl⟩
  · rw [named_text_of_lookup span (boundValue_ok hb)]
    rcases Value.scalarText?_scalar hs with ⟨text, ht⟩ | ⟨n, _, _, ht⟩ <;> rw [ht] <;> rfl
  · exact named_text_of_unbound span hl

/-- A binary expression as a text: joined texts where its form says so, else the text of its
value. -/
theorem text_binary (span : Option Span) (left right : Operand) (op : Operator) :
    ((binary span left op right).text s).result =
      if op = .plus ∧ (isText s.lookup left.expr = true ∨ isText s.lookup right.expr = true) then
        (concatenated left right s).result.map some
      else ((binaryValue span op left right >>=
        textOf (.binary span left.expr op right.expr)) s).result := by
  have reading : ((binary span left op right).text s).result =
      ((if op = .plus ∧ (isText s.lookup left.expr = true ∨ isText s.lookup right.expr = true) then
          some <$> concatenated left right
        else binaryValue span op left right >>=
          textOf (.binary span left.expr op right.expr)) s).result := by
    rw [binary, result_bind]
    rfl
  rw [reading]
  split
  · rw [result_map]
  · rfl

/-- Both ways of reading a binary expression as a text give the text of its value, if what is a text
by its form has a string as its value. -/
theorem text_of_binaryValue {span : Option Span} {left right : Operand} {op : Operator}
    (hl : ∀ a, isText s.lookup left.expr = true → (left.reading.value s).result = .ok a →
      a.type = .string)
    (hr : ∀ a, isText s.lookup right.expr = true → (right.reading.value s).result = .ok a →
      a.type = .string)
    (h : (binaryValue span op left right s).result = .ok v) (hs : v.type.isScalar = true) :
    ((binary span left op right).text s).result = (Eval.orBreak v.scalarText? s).result := by
  rw [text_binary]
  split
  · next hc =>
    obtain ⟨a, b, ha, hb, hv⟩ := binaryValue_ok (by rw [hc.1]; rfl) h
    have joined : a.type = .string ∨ b.type = .string :=
      hc.2.imp (fun ht => hl a ht ha) (fun ht => hr b ht hb)
    rcases hv with ⟨_, _, text, ht, rfl⟩ | ⟨hna, hnb, _⟩
    · rw [ht]
      rfl
    · rcases joined with ht | ht
      · rw [ht] at hna
        cases hna
      · rw [ht] at hnb
        cases hnb
  · exact text_ofValue h hs

end Reading

namespace Expr

variable {s : Scope}

/-- What is a text by its form has a string as its value. -/
theorem type_of_isText {v : Value} : ∀ e : Expr, Reading.isText s.lookup e = true →
    (e.reading.value s).result = .ok v → v.type = .string
  | literal _ l, ht, h => by
    cases l with
    | string text =>
      cases h
      rfl
    | _ => cases ht
  | named span name, ht, h => by
    rcases Reading.named_value_ok h with hb | ⟨_, rfl⟩
    · rw [Reading.isText, Reading.boundValue_ok hb] at ht
      exact eq_of_beq ht
    · rfl
  | binary span left op right, ht, h => by
    cases op with
    | plus =>
      obtain ⟨a, b, ha, hb, hv⟩ := Reading.binaryValue_ok rfl h
      rcases hv with ⟨_, _, text, _, rfl⟩ | ⟨hna, hnb, _⟩
      · rfl
      · rw [Reading.isText, Bool.or_eq_true] at ht
        rcases ht with ht | ht
        · rw [type_of_isText left ht ha] at hna
          cases hna
        · rw [type_of_isText right ht hb] at hnb
          cases hnb
    | _ => cases ht
  | absent, ht, _ => by cases ht
  | constant _ _ _, ht, _ => by cases ht
  | unary _ _ _, ht, _ => by cases ht
  | call _ _ _, ht, _ => by cases ht
  | index _ _ _, ht, _ => by cases ht
  | entry _ _ _, ht, _ => by cases ht
  | member _ _ _, ht, _ => by cases ht

/-- The text of an expression with a scalar value is the text of that value. -/
theorem text_of_value {v : Value} (hs : v.type.isScalar = true) : ∀ e : Expr,
    (e.reading.value s).result = .ok v →
    (e.reading.text s).result = (Eval.orBreak v.scalarText? s).result
  | absent, h => by cases h
  | literal _ _, h => Reading.text_ofValue h hs
  | constant _ _ _, h => Reading.text_ofValue h hs
  | named _ _, h => Reading.text_named h hs
  | unary _ _ _, h => Reading.text_ofValue h hs
  | binary _ _ _ _, h =>
    Reading.text_of_binaryValue (fun _ ht ha => type_of_isText _ ht ha)
      (fun _ ht hb => type_of_isText _ ht hb) h hs
  | call _ _ _, h => Reading.text_ofValue h hs
  | index _ _ _, h => Reading.text_ofValue h hs
  | entry _ _ _, h => Reading.text_ofValue h hs
  | member _ _ _, h => Reading.text_ofValue h hs

end Expr

/-- An expression with a scalar value is read as the text of that value, whichever way the reading
takes; but an integer with too many digits has no text, and the reading breaks down. -/
theorem evalText_of_eval (t : SymbolTable) (epsilon : Float) (e : Expr) (v : Value)
    (h : (e.eval ⟨t.lookup, epsilon⟩).result = .ok v) (hs : v.type.isScalar = true) :
    (∃ text, v.scalarText? = .ok (some text) ∧
      (e.evalText ⟨t.lookup, epsilon⟩).result = .ok (some text)) ∨
    ∃ n, v = .integer n ∧ Numeral.isWritable n = false ∧
      (e.evalText ⟨t.lookup, epsilon⟩).result = .error (.broken .longIntegerText) := by
  have agree : (e.evalText ⟨t.lookup, epsilon⟩).result =
      (Eval.orBreak v.scalarText? ⟨t.lookup, epsilon⟩).result := Expr.text_of_value hs e h
  rcases Value.scalarText?_scalar hs with ⟨text, ht⟩ | ⟨n, hv, hn, ht⟩
  · rw [ht] at agree
    exact .inl ⟨text, ht, agree⟩
  · rw [ht] at agree
    exact .inr ⟨n, hv, hn, agree⟩

/-- A table with a row label, a row number and an offset. -/
def labelTable : SymbolTable :=
  { bindings := [("label", { value := .string "row " }), ("row", { value := .integer 7 }),
      ("offset", { value := .integer (-3) })] }

/-- The label of the row at the offset: a text, and a sum of integers in brackets. -/
def rowLabel : Expr :=
  .binary none (.named none "label") .plus
    (.binary none (.named none "row") .plus (.named none "offset"))

theorem rowLabel_eval :
    (rowLabel.eval ⟨labelTable.lookup, 1e-9⟩).result = .ok (.string "row 4") := by
  have shape : ((rowLabel.eval ⟨labelTable.lookup, 1e-9⟩).result.toOption.map fun v =>
      (v.type, v.scalarText?.toOption)) = some (.string, some (some "row 4")) := by decide +kernel
  cases h : (rowLabel.eval ⟨labelTable.lookup, 1e-9⟩).result with
  | error e =>
    rw [h] at shape
    cases shape
  | ok v =>
    rw [h] at shape
    cases v with
    | string text =>
      cases shape
      rfl
    | _ => cases shape

theorem evalText_of_eval_rowLabel :
    (rowLabel.eval ⟨labelTable.lookup, 1e-9⟩).result = .ok (.string "row 4") ∧
    (Value.string "row 4").type.isScalar = true ∧
    ((∃ text, (Value.string "row 4").scalarText? = .ok (some text) ∧
      (rowLabel.evalText ⟨labelTable.lookup, 1e-9⟩).result = .ok (some text)) ∨
    ∃ n, Value.string "row 4" = .integer n ∧ Numeral.isWritable n = false ∧
      (rowLabel.evalText ⟨labelTable.lookup, 1e-9⟩).result = .error (.broken .longIntegerText)) :=
  ⟨rowLabel_eval, rfl, evalText_of_eval labelTable 1e-9 rowLabel _ rowLabel_eval rfl⟩

/-- A table with an integer of one digit more than can be written. -/
def longTable : SymbolTable :=
  { bindings := [("N", { value := .integer (Nat.pow 10 Numeral.digitLimit) })] }

/-- The integer is the value of its name, a scalar, and yet the name has no text. -/
theorem evalText_of_eval_longInteger :
    ((Expr.named none "N").eval ⟨longTable.lookup, 1e-9⟩).result =
      .ok (.integer (Nat.pow 10 Numeral.digitLimit)) ∧
    (Value.integer (Nat.pow 10 Numeral.digitLimit)).type.isScalar = true ∧
    ((Expr.named none "N").evalText ⟨longTable.lookup, 1e-9⟩).result =
      .error (.broken .longIntegerText) := by
  have unwritable : ¬ Numeral.isWritable (Nat.pow 10 Numeral.digitLimit) = true := by
    rw [Numeral.isWritable_iff, Int.natAbs_natCast]
    exact Nat.lt_irrefl _
  have long : Number.text (Nat.pow 10 Numeral.digitLimit) = .error .longIntegerText :=
    if_neg unwritable
  refine ⟨rfl, rfl, (Expr.text_of_value rfl (.named none "N") rfl).trans ?_⟩
  rw [Value.scalarText?, long]
  rfl

end DialogScript
