import DialogScript.Eval.Reading
import DialogScript.Tree.Listing

/-!
Reading nodes of any family. Only expressions have readings; every other node is refused in each of
them.
-/

namespace DialogScript

namespace Reading

/-- The readings of a node that is no expression. -/
def refused (node : NodeClass) (span : Option Span) : Reading where
  type := Eval.fail (.notAnExpression node.name) span
  value := Eval.fail (.notAnExpression node.name) span
  stored := Eval.fail (.notAnExpression node.name) span
  integer := Eval.fail (.notAnExpression node.name) span
  double := Eval.fail (.notAnExpression node.name) span
  text := Eval.fail (.notAnExpression node.name) span

end Reading

namespace Node

/-- The readings of a node. -/
def reading : Node → Reading
  | expr e => e.reading
  | command c => .refused c.nodeClass c.span
  | branch (.mk span _ _) => .refused .ifBranch span
  | block b => .refused .block b.span
  | script s => .refused .script s.span

/-- The script text of an expression; of any other node, its class in brackets. -/
def text : Node → Except Breakdown String
  | expr e => e.text
  | command c => .ok ("<" ++ c.nodeClass.name ++ ">")
  | branch _ => .ok ("<" ++ NodeClass.ifBranch.name ++ ">")
  | block _ => .ok ("<" ++ NodeClass.block.name ++ ">")
  | script _ => .ok ("<" ++ NodeClass.script.name ++ ">")

end Node

end DialogScript
