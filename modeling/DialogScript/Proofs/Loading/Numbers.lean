import Mathlib.Data.List.Nodup
import DialogScript.Proofs.Loading.Family

/-!
The numbers of conditionals and assignments, in the order of the data. The tree itself does not tell
in which order its fields were written; so the numbered nodes of a class are listed along the data
that they come from, each with the number that its data gives and the number that it has.
-/

namespace DialogScript

/-! ## Numbers in a tree -/

/-- The number of a command of a class. -/
def Command.number? (c : NodeClass) : Command → Option Int
  | conditional _ _ _ id => if c = .ifCommand then some id else none
  | action _ (.assign _ _ id) => if c = .assignment then some id else none
  | _ => none

namespace Command

mutual

/-- The numbers of the commands of a class in a command and inside it. -/
def numbers (c : NodeClass) : Command → List Int
  | action s a => ((action s a).number? c).toList
  | conditional s branches otherwise id =>
    ((conditional s branches otherwise id).number? c).toList
      ++ branchNumbers c branches ++ allNumbers c otherwise
  | forLoop _ _ _ _ body => allNumbers c body
  | whileLoop _ _ body => allNumbers c body

/-- The numbers in some commands. -/
def allNumbers (c : NodeClass) : List Command → List Int
  | [] => []
  | x :: rest => numbers c x ++ allNumbers c rest

/-- The numbers in some branches. -/
def branchNumbers (c : NodeClass) : List Branch → List Int
  | [] => []
  | .mk _ _ commands :: rest => allNumbers c commands ++ branchNumbers c rest

end

end Command

/-- The numbers of the commands of a class in a script. -/
def Script.numbers (c : NodeClass) (script : Script) : List Int :=
  script.blocks.flatMap fun b => Command.allNumbers c b.commands

/-- The number of a node of a class. -/
def Node.number? (c : NodeClass) : Node → Option Int
  | command x => x.number? c
  | _ => none

/-- The numbers of the commands of a class in a node. -/
def Node.numbers (c : NodeClass) : Node → List Int
  | expr _ => []
  | command x => x.numbers c
  | branch b => Command.allNumbers c b.commands
  | block b => Command.allNumbers c b.commands
  | script s => s.numbers c

theorem Command.allNumbers_eq (c : NodeClass) (cs : List Command) :
    allNumbers c cs = cs.flatMap (numbers c) := by
  induction cs with
  | nil => rfl
  | cons x rest ih => rw [allNumbers, List.flatMap_cons, ih]

theorem Command.branchNumbers_eq (c : NodeClass) (bs : List Branch) :
    branchNumbers c bs = bs.flatMap fun b => allNumbers c b.commands := by
  induction bs with
  | nil => rfl
  | cons b rest ih =>
    obtain ⟨span, condition, commands⟩ := b
    rw [branchNumbers, List.flatMap_cons, ih]
    rfl

/-- Lists that differ in elements with no part in them have the same parts. -/
theorem flatMap_perm {α β : Type} [DecidableEq α] {l l' : List α} {f : α → List β} (hl : l.Nodup)
    (hl' : l'.Nodup) (h : ∀ a ∈ l, a ∉ l' → f a = []) (h' : ∀ a ∈ l', a ∉ l → f a = []) :
    (l.flatMap f).Perm (l'.flatMap f) := by
  have kept {l l' : List α} (h : ∀ a ∈ l, a ∉ l' → f a = []) :
      l.flatMap f = (l.filter (· ∈ l')).flatMap f := by
    induction l with
    | nil => rfl
    | cons a rest ih =>
      obtain ⟨ha, hrest⟩ := List.forall_mem_cons.1 h
      rw [List.flatMap_cons, ih hrest, List.filter_cons]
      by_cases hmem : a ∈ l'
      · simp [hmem]
      · simp [hmem, ha hmem]
  rw [kept h, kept h']
  refine List.Perm.flatMap_right f ((List.perm_ext_iff_of_nodup (hl.filter _) (hl'.filter _)).2 ?_)
  intro a
  simp [and_comm]

namespace Node

theorem numbers_commands (c : NodeClass) (cs : List Command) :
    (cs.map command).flatMap (numbers c) = Command.allNumbers c cs := by
  rw [List.flatMap_map, Command.allNumbers_eq]
  rfl

/-- The numbers in a node are its own and those in the nodes under it. -/
theorem numbers_eq (c : NodeClass) (n : Node) : n.numbers c =
    (n.number? c).toList ++ n.places.flatMap fun key => (n.under key).flatMap (numbers c) := by
  cases n with
  | expr e => rfl
  | command x =>
    cases x <;>
      simp [numbers, Command.numbers, number?, Command.number?, places, under,
        Command.allNumbers_eq, Command.branchNumbers_eq, List.flatMap_map]
  | branch b => simp [numbers, number?, places, under, numbers_commands]
  | block b => simp [numbers, number?, places, under, numbers_commands]
  | script s => simp [numbers, number?, places, under, Script.numbers, List.flatMap_map]

end Node

/-! ## Numbered nodes in the order of the data -/

/-- A numbered node: the number that its data gives, if there is one, and the number it has. -/
structure Numbered where
  given : Option Int
  got : Int
  deriving DecidableEq, Repr

/-- The number that a mapping gives to a node of a class. -/
def Tree.givenNumber (c : NodeClass) (entries : List (String × Data)) : Option Int :=
  match c.idField?.bind fun field => entries.lookup field with
  | some (.int n) => some n
  | _ => none

namespace Tree

mutual

/-- The nodes of a class in the node that data describes: the node itself and then those in its
fields, as the data gives them. -/
def numbered (c : NodeClass) : Data → Node → List Numbered
  | .dict entries, n =>
    ((n.number? c).map (Numbered.mk (givenNumber c entries))).toList
      ++ numberedFields c n.under entries
  | _, _ => []

/-- The nodes of a class in the fields of a mapping. -/
def numberedFields (c : NodeClass) (under : String → List Node) :
    List (String × Data) → List Numbered
  | [] => []
  | (key, raw) :: rest => numberedList c raw (under key) ++ numberedFields c under rest

/-- The nodes of a class in a list. -/
def numberedList (c : NodeClass) : Data → List Node → List Numbered
  | .list items, ns => numberedItems c items ns
  | _, _ => []

/-- The nodes of a class in the items of a list. -/
def numberedItems (c : NodeClass) : List Data → List Node → List Numbered
  | item :: rest, n :: ns => numbered c item n ++ numberedItems c rest ns
  | _, _ => []

end

/-- The items under a key of a mapping, if a list is there. -/
def itemsUnder (key : String) (data : Data) : List Data :=
  match data.get? key with
  | some (.list items) => items
  | _ => []

/-- The nodes of a class in a block. -/
def numberedBlock (c : NodeClass) (data : Data) (b : Block) : List Numbered :=
  numberedItems c (itemsUnder "commands" data) (b.commands.map .command)

/-- The nodes of a class in the script that data describes. -/
def numberedScript (c : NodeClass) (data : Data) (script : Script) : List Numbered :=
  ((itemsUnder "blocks" data).zipWith (numberedBlock c) script.blocks).flatten

end Tree

/-- Numbered nodes that follow one another: a number that is given is kept, and the others are taken
from a counter, which is then above all numbers before. -/
inductive Numbered.Follow : Int → List Numbered → Int → Prop
  | nil (next : Int) : Follow next [] next
  | cons {next last : Int} (given : Option Int) {rest : List Numbered}
    (h : Follow (max next (given.getD next) + 1) rest last) :
    Follow next (⟨given, given.getD next⟩ :: rest) last

/-- Numbered nodes in order: a number that is given is kept, and any other is positive and above all
numbers before it. -/
structure Numbered.InOrder (l : List Numbered) : Prop where
  kept : ∀ x ∈ l, ∀ n, x.given = some n → x.got = n
  positive : ∀ x ∈ l, x.given = none → 1 ≤ x.got
  above : l.Pairwise fun x y => y.given = none → x.got < y.got

namespace Numbered

variable {first next last : Int} {l more : List Numbered}

theorem Follow.append (h : Follow first l next) (hm : Follow next more last) :
    Follow first (l ++ more) last := by
  induction h with
  | nil _ => exact hm
  | cons given _ ih => exact .cons given (ih hm)

theorem Follow.last_eq (h : Follow first [] last) : last = first := by
  cases h
  rfl

theorem Follow.kept (h : Follow first l last) : ∀ x ∈ l, ∀ n, x.given = some n → x.got = n := by
  induction h with
  | nil _ => exact fun x hx => absurd hx List.not_mem_nil
  | cons given _ ih =>
    refine List.forall_mem_cons.2 ⟨fun n hn => ?_, ih⟩
    simp only at hn
    rw [hn]
    rfl

/-- What is not given is at least the counter. -/
theorem Follow.le (h : Follow first l last) : ∀ x ∈ l, x.given = none → first ≤ x.got := by
  induction h with
  | nil _ => exact fun x hx => absurd hx List.not_mem_nil
  | @cons next last given rest _ ih =>
    refine List.forall_mem_cons.2 ⟨fun hn => ?_, fun x hx hn => ?_⟩
    · simp only at hn
      rw [hn]
      exact Int.le_refl next
    · have := ih x hx hn
      omega

theorem Follow.above (h : Follow first l last) :
    l.Pairwise fun x y => y.given = none → x.got < y.got := by
  induction h with
  | nil _ => exact .nil
  | @cons next last given rest hrest ih =>
    refine List.pairwise_cons.2 ⟨fun y hy hn => ?_, ih⟩
    have hy := hrest.le y hy hn
    change given.getD next < y.got
    omega

theorem Follow.inOrder (h : Follow 1 l last) : InOrder l := ⟨h.kept, h.le, h.above⟩

/-- Where nothing is given, the numbers are the next ones. -/
theorem Follow.got_eq (h : Follow first l last) (hn : ∀ x ∈ l, x.given = none) :
    l.map Numbered.got = (List.range l.length).map fun i : Nat => first + i := by
  induction h with
  | nil _ => rfl
  | @cons next last given rest hrest ih =>
    obtain ⟨hgiven, hothers⟩ := List.forall_mem_cons.1 hn
    simp only at hgiven
    subst hgiven
    rw [List.map_cons, ih hothers, List.length_cons, List.range_succ_eq_map, List.map_cons,
      List.map_map]
    refine List.cons_eq_cons.2 ⟨?_, List.map_congr_left fun i _ => ?_⟩
    · simp
    · simp
      omega

end Numbered

/-- Numbered nodes that follow one another, and are those with the numbers in a part of a tree. -/
structure Numbered.Count (next : Int) (l : List Numbered) (numbers : List Int) (last : Int) :
    Prop where
  follow : Follow next l last
  all : (l.map got).Perm numbers

theorem Numbered.Count.nil (next : Int) : Count next [] [] next := ⟨.nil next, .nil⟩

theorem Numbered.Count.append {first next last : Int} {l more : List Numbered}
    {numbers others : List Int} (h : Count first l numbers next)
    (hm : Count next more others last) : Count first (l ++ more) (numbers ++ others) last where
  follow := h.follow.append hm.follow
  all := by
    rw [List.map_append]
    exact h.all.append hm.all

namespace Tree

theorem numberedItems_nil (c : NodeClass) (items : List Data) : numberedItems c items [] = [] := by
  cases items <;> rfl

theorem numberedList_nil (c : NodeClass) (data : Data) : numberedList c data [] = [] := by
  cases data with
  | list items => exact numberedItems_nil c items
  | _ => rfl

theorem numberedFields_congr (c : NodeClass) {under under' : String → List Node}
    {entries : List (String × Data)} (h : ∀ key ∈ Keyed.keys entries, under key = under' key) :
    numberedFields c under entries = numberedFields c under' entries := by
  induction entries with
  | nil => rfl
  | cons entry rest ih =>
    obtain ⟨hkey, hrest⟩ := List.forall_mem_cons.1 h
    rw [numberedFields, numberedFields, hkey, ih hrest]

theorem numberedFields_nil (c : NodeClass) (entries : List (String × Data)) :
    numberedFields c (fun _ => []) entries = [] := by
  induction entries with
  | nil => rfl
  | cons entry rest ih => rw [numberedFields, numberedList_nil, ih, List.nil_append]

/-- No node of a class is numbered in an expression. -/
theorem numbered_expr (c : NodeClass) (data : Data) (e : Expr) :
    numbered c data (.expr e) = [] := by
  cases data with
  | dict entries => exact numberedFields_nil c entries
  | _ => rfl

theorem numberedItems_exprs (c : NodeClass) (items : List Data) {ns : List Node}
    (h : ∀ n ∈ ns, n.family = .expression) : numberedItems c items ns = [] := by
  induction items generalizing ns with
  | nil => rfl
  | cons item rest ih =>
    cases ns with
    | nil => rfl
    | cons n ns =>
      obtain ⟨hn, hns⟩ := List.forall_mem_cons.1 h
      cases n <;> cases hn
      rw [numberedItems, numbered_expr, ih hns, List.nil_append]

theorem numberedList_exprs (c : NodeClass) (data : Data) {ns : List Node}
    (h : ∀ n ∈ ns, n.family = .expression) : numberedList c data ns = [] := by
  cases data with
  | list items => exact numberedItems_exprs c items h
  | _ => rfl

end Tree

end DialogScript
