import DialogScript.Tree.Expr

/-!
The text of an expression with its integers in full, however many digits they have. Where an
expression has a text at all, this is it.
-/

namespace DialogScript.Expr

/-- The text of a literal, with all the digits of an integer. -/
def literalWritten : Literal → String
  | .integer (.number n) => toString n
  | .integer (.truth b) => (Data.bool b).plain
  | .double x => Value.doubleText x
  | .string s => "\"" ++ s ++ "\""
  | .bool b => if b then "TRUE" else "FALSE"

mutual

/-- The text of an expression, with all the digits of its integers. -/
def written : Expr → String
  | absent => ""
  | literal _ value => literalWritten value
  | constant _ name _ => name
  | named _ name => name
  | unary _ _ operand => "-" ++ written operand
  | binary _ left op right =>
    "(" ++ written left ++ " " ++ op.symbol ++ " " ++ written right ++ ")"
  | call _ function args => function ++ "(" ++ ", ".intercalate (allWritten args) ++ ")"
  | index _ base i => written base ++ "[" ++ written i ++ "]"
  | entry _ map key => written map ++ "." ++ key
  | member _ struct name => written struct ++ "." ++ name

/-- The texts of some expressions, with all the digits of their integers. -/
def allWritten : List Expr → List String
  | [] => []
  | e :: rest => written e :: allWritten rest

end

/-! ## What writing an expression gives -/

/-- Writing gives a certain text, unless it breaks down on an integer with too many digits. -/
def Writes {α : Type} (x : Except Breakdown α) (full : α) : Prop :=
  x = .ok full ∨ x = .error .longIntegerText

namespace Writes

variable {α β : Type} {x : Except Breakdown α} {full a : α}

theorem bind {f : α → Except Breakdown β} {result : β} (hx : Writes x full)
    (hf : Writes (f full) result) : Writes (x >>= f) result := by
  obtain rfl | rfl := hx
  · exact hf
  · exact .inr rfl

theorem eq_of_error {b : Breakdown} (hx : Writes x full) (h : x = .error b) :
    b = .longIntegerText := by
  obtain rfl | rfl := hx <;> cases h
  rfl

end Writes

theorem literalText_writes : ∀ l : Literal, Writes (literalText l) (literalWritten l)
  | .integer (.number n) => by
    by_cases hn : Numeral.isWritable n = true
    · exact .inl (if_pos hn)
    · exact .inr (if_neg hn)
  | .integer (.truth _) => .inl rfl
  | .double _ => .inl rfl
  | .string _ => .inl rfl
  | .bool _ => .inl rfl

mutual

/-- The text of an expression is the one with all the digits, unless there are too many. -/
theorem text_writes : ∀ e : Expr, Writes e.text e.written
  | absent => .inl rfl
  | literal _ value => literalText_writes value
  | constant .. => .inl rfl
  | named .. => .inl rfl
  | unary _ _ operand => (text_writes operand).bind (.inl rfl)
  | binary _ left _ right => (text_writes left).bind ((text_writes right).bind (.inl rfl))
  | call _ _ args => (texts_writes args).bind (.inl rfl)
  | index _ base i => (text_writes base).bind ((text_writes i).bind (.inl rfl))
  | entry _ map _ => (text_writes map).bind (.inl rfl)
  | member _ struct _ => (text_writes struct).bind (.inl rfl)

theorem texts_writes : ∀ es : List Expr, Writes (texts es) (allWritten es)
  | [] => .inl rfl
  | e :: rest => (text_writes e).bind ((texts_writes rest).bind (.inl rfl))

end

end DialogScript.Expr
