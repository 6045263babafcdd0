import DialogScript.Check.Assignment
import DialogScript.Check.Declaration
import DialogScript.Check.Dialog
import DialogScript.Check.Parameter
import DialogScript.Check.Selection
import DialogScript.Check.Table

/-!
The check of each action, and of the condition of a branch.
-/

namespace DialogScript.Check

/-- The check of an action. -/
def action : Action → Check Unit
  | .declare d => declaration d
  | .configure c => configuration c
  | .globalPicture picture => globalPicture picture
  | .subPicture picture posX posY => subPicture picture posX posY
  | .showParam p => shownParam p
  | .checkbox p => checkboxParam p
  | .userInput p => inputParam p
  | .radio p => radioParam p
  | .select s => selection s
  | .table t => selectionTable t
  | .invalidate name => invalidation name
  | .assign lhs rhs id => assignment lhs rhs id
  | .evaluate e => bareExpression e

/-- The check of a branch's condition, which must have a type that can be true or false. -/
def condition (branch : Nat) (e : Expr) : Check Unit := do
  requirePresent e ("condition of branch " ++ toString branch)
  let found ← typeOf e
  if found.isCondition then pure () else failAt (.conditionType found) e.span

end DialogScript.Check
