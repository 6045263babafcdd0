import DialogScript.Tree.Load

/-!
Intact trees: no operand, argument, base or index inside an expression is missing. A slot of a
command may be empty as such, since commands leave their options out that way.
-/

namespace DialogScript

namespace Expr

mutual

/-- Whether there is an expression, and one in every place inside it. -/
def isFilled : Expr → Bool
  | absent => false
  | literal .. | constant .. | named .. => true
  | unary _ _ operand => isFilled operand
  | binary _ left _ right => isFilled left && isFilled right
  | call _ _ args => allFilled args
  | index _ base i => isFilled base && isFilled i
  | entry _ map _ => isFilled map
  | member _ struct _ => isFilled struct

/-- Whether some expressions are filled. -/
def allFilled : List Expr → Bool
  | [] => true
  | e :: rest => isFilled e && allFilled rest

end

/-- Whether a slot is empty or holds a filled expression. -/
def isIntact (e : Expr) : Bool := e.isAbsent || e.isFilled

theorem isIntact_of_isFilled {e : Expr} (h : e.isFilled = true) : e.isIntact = true := by
  rw [isIntact, h, Bool.or_true]

theorem allFilled_iff {es : List Expr} : allFilled es = true ↔ ∀ e ∈ es, e.isFilled = true := by
  induction es with
  | nil => exact iff_of_true rfl fun _ h => absurd h List.not_mem_nil
  | cons e rest ih => rw [allFilled, Bool.and_eq_true, ih, List.forall_mem_cons]

end Expr

/-- Slots that are all intact. -/
def Intact (slots : List Expr) : Prop := ∀ e ∈ slots, e.isIntact = true

/-! ## The slots of a tree -/

/-- The slots of a display. -/
def Display.slots (d : Display) : List Expr := [d.tooltip, d.image, d.posX, d.posY]

/-- The slots of a selection's target. -/
def SelectTarget.slots : SelectTarget → List Expr
  | unspecified | one .. => []
  | many _ maxSel _ => [maxSel]

/-- The slots of a selection. -/
def Selection.slots (s : Selection) : List Expr :=
  s.target.slots ++ s.types ++
    [s.displayOrder, s.filterModel, s.filterFeature, s.filterGeometry, s.filterReference,
      s.filterIdentifier, s.includeMultiCad, s.tag] ++ s.display.slots

/-- The slots of an input field. -/
def InputParam.slots (p : InputParam) : List Expr :=
  [p.default, p.width, p.decimalPlaces, p.model, p.displayOrder, p.minValue, p.maxValue] ++
    p.display.slots

/-- The slots of a table. -/
def SelectionTable.slots (t : SelectionTable) : List Expr :=
  t.name :: t.options ++ t.selStrings ++ t.dataTypes ++ t.rows.flatten

/-- The slots of an action. -/
def Action.slots : Action → List Expr
  | declare d => [d.default]
  | configure c => [c.location, c.width, c.height]
  | globalPicture picture => [picture]
  | subPicture picture posX posY => [picture, posX, posY]
  | showParam p => p.display.slots
  | checkbox p => p.displayOrder :: p.tag :: p.display.slots
  | userInput p => p.slots
  | radio p => p.options ++ p.displayOrder :: p.display.slots
  | select s => s.slots
  | table t => t.slots
  | invalidate _ => []
  | assign lhs rhs _ => [lhs, rhs]
  | evaluate e => [e]

namespace Command

mutual

/-- The slots of a command and of all commands inside it. -/
def slots : Command → List Expr
  | action _ a => a.slots
  | conditional _ branches otherwise _ => branchSlots branches ++ allSlots otherwise
  | forLoop _ _ _ args body => args ++ allSlots body
  | whileLoop _ condition body => condition :: allSlots body

/-- The slots of some commands. -/
def allSlots : List Command → List Expr
  | [] => []
  | c :: rest => slots c ++ allSlots rest

/-- The slots of some branches: the condition of each, and those of its commands. -/
def branchSlots : List Branch → List Expr
  | [] => []
  | .mk _ condition commands :: rest => (condition :: allSlots commands) ++ branchSlots rest

end

end Command

/-- The slots of a branch. -/
def Branch.slots (b : Branch) : List Expr := b.condition :: Command.allSlots b.commands

/-- The slots of a script. -/
def Script.slots (script : Script) : List Expr :=
  script.blocks.flatMap fun b => Command.allSlots b.commands

namespace Intact

variable {es fs : List Expr}

theorem nil : Intact [] := fun _ h => absurd h List.not_mem_nil

theorem append_iff : Intact (es ++ fs) ↔ Intact es ∧ Intact fs := List.forall_mem_append

theorem cons_iff {e : Expr} : Intact (e :: es) ↔ e.isIntact = true ∧ Intact es :=
  List.forall_mem_cons

theorem allSlots_iff {cs : List Command} :
    Intact (Command.allSlots cs) ↔ ∀ c ∈ cs, Intact c.slots := by
  induction cs with
  | nil => exact iff_of_true nil fun _ h => absurd h List.not_mem_nil
  | cons c rest ih => rw [Command.allSlots, append_iff, ih, List.forall_mem_cons]

theorem branchSlots_iff {branches : List Branch} :
    Intact (Command.branchSlots branches) ↔ ∀ b ∈ branches, Intact b.slots := by
  induction branches with
  | nil => exact iff_of_true nil fun _ h => absurd h List.not_mem_nil
  | cons b rest ih =>
    obtain ⟨span, condition, commands⟩ := b
    rw [Command.branchSlots, append_iff, ih, List.forall_mem_cons]
    rfl

end Intact

end DialogScript
