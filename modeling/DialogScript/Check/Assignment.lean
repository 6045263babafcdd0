import DialogScript.Check.Field

/-!
Assignments and bare expressions. Both are checked by their types alone; an assignment leaves a
record that says what it writes and in which branch it stands.
-/

namespace DialogScript.Check

/-- Checks that a value of one type can be assigned to a place of another: the types agree, or are
both numeric. A double in an integer place is truncated. -/
def assignableTypes (text : String) (lhs rhs : ValueType) : Check Unit :=
  if lhs = rhs then pure ()
  else
    match lhs, rhs with
    | .double, .integer => pure ()
    | .integer, .double => remark (.truncatedAssignment text)
    | lhs, rhs => fail (.typeMismatch ("assignment to " ++ quote text) lhs.name rhs.name)

/-- The name that an assignment writes, if it writes a whole variable. -/
def targetEntry : Expr → Options
  | .named _ name => [("lhs_name", .string name)]
  | _ => []

/-- The conditional and the branch around an assignment. The branch is known wherever a conditional
is around it. -/
def branchEntries : Option Int × Option Int → Except Breakdown Options
  | (none, _) => .ok []
  | (some id, some branch) => .ok [("if_id", .integer id), ("branch_index", .integer branch)]
  | (some _, none) => .error (.notAnInteger OperandShape.nothing.name)

/-- `ASSIGNMENT`: checks both sides and leaves a record. -/
def assignment (lhs rhs : Expr) (id : Int) : Check Unit := do
  requirePresent lhs "left-hand side"
  requirePresent rhs "right-hand side"
  if !lhs.isAssignable then do
    let text ← scriptText lhs
    failAt (.notAssignable text) lhs.span
  else do
    let lhsType ← typeOf lhs
    let rhsType ← typeOf rhs
    let lhsText ← scriptText lhs
    assignableTypes lhsText lhsType rhsType
    let rhsText ← scriptText rhs
    let around ← branchAround
    let branch ← eval (Eval.orBreak (branchEntries around))
    write (.setRecord .assignments id (Value.mapOf
      ([("assign_id", .integer id), ("lhs_text", .string lhsText),
        ("rhs_text", .string rhsText), ("lhs_type", .string lhsType.name),
        ("rhs_type", .string rhsType.name)] ++ targetEntry lhs ++ branch)))

/-- `EXPRESSION`: checks the type of an expression. -/
def bareExpression (e : Expr) : Check Unit := do
  requirePresent e "expression"
  let _ ← typeOf e
  pure ()

end DialogScript.Check
