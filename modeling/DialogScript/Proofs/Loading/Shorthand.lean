import DialogScript.Proofs.Loading.Loaded

/-!
Bare scalars as shorthand. Where a tree expects an expression, a bare scalar stands for the literal
of its type; so it does not matter at which of these places the literal is spelled out as a mapping
with its class and its value. The places are those that the fields of the node classes ask an
expression for, in lists and in the rows of tables too.
-/

namespace DialogScript.Tree

/-! ## Loadings with the same outcome -/

/-- Two loadings give the same and leave the same numbers for what follows, or both fail. -/
def SameOutcome {α : Type} (m m' : Load α) : Prop := ∀ n r, m n = .ok r ↔ m' n = .ok r

namespace SameOutcome

variable {α β : Type} {m m' : Load α} {f f' : α → Load β}

theorem refl (m : Load α) : SameOutcome m m := fun _ _ => Iff.rfl

theorem refuse (e e' : LoadError) : SameOutcome (Tree.refuse e : Load α) (Tree.refuse e') :=
  fun _ _ => ⟨nofun, nofun⟩

theorem bind (hm : SameOutcome m m') (hf : ∀ a, SameOutcome (f a) (f' a)) :
    SameOutcome (m >>= f) (m' >>= f') := by
  intro n r
  simp only [bind_eq_ok_iff, hm n, hf _ _ r]

theorem map (g : α → β) (hm : SameOutcome m m') : SameOutcome (g <$> m) (g <$> m') :=
  hm.bind fun a => refl (pure (g a))

end SameOutcome

/-! ## Spelled-out literals -/

/-- A step into data: to the value under a key, or to the item at a position. -/
inductive Step where
  | key (name : String)
  | item (position : Nat)

/-- A set of places in data. A place is told by the steps to it. -/
abbrev Places : Type := List Step → Bool

/-- The places behind a step. -/
def Places.behind (places : Places) (step : Step) : Places := fun steps => places (step :: steps)

/-- A literal as a mapping. -/
def literalNode (c : NodeClass) (value : Data) : Data :=
  .dict [("node", .text c.name), ("value", value)]

/-- A bare scalar as the mapping of its literal. -/
def spellScalar : Data → Data
  | .bool b => literalNode .boolLiteral (.bool b)
  | .int n => literalNode .intLiteral (.int n)
  | .real x => literalNode .doubleLiteral (.real x)
  | .text s => literalNode .stringLiteral (.text s)
  | data => data

/-- The class that a mapping names. -/
def namedClass? (entries : List (String × Data)) : Option NodeClass :=
  match entries.lookup "node" with
  | some (.text s) => NodeClass.ofName? s
  | _ => none

mutual

/-- The data of a node with the scalars spelled out at some places where expressions are
expected. -/
def spellNode (places : Places) (expected : NodeFamily) : Data → Data
  | .dict entries =>
    match namedClass? entries with
    | some c => .dict (spellFields places c entries)
    | none => .dict entries
  | data => if expected = .expression ∧ places [] = true then spellScalar data else data

/-- The fields of a class, with scalars spelled out. -/
def spellFields (places : Places) (c : NodeClass) : List (String × Data) → List (String × Data)
  | [] => []
  | (key, raw) :: rest =>
    let inside := places.behind (.key key)
    let spelled :=
      if reserved.contains key then raw
      else match fieldType? c key with
        | some .expression => spellNode inside .expression raw
        | some .optionalExpression => spellNode inside .expression raw
        | some .expressions => spellList inside .expression raw
        | some .commands => spellList inside .command raw
        | some .branches => spellList inside .branch raw
        | some .blocks => spellList inside .block raw
        | some .expressionRows => spellRowList inside raw
        | _ => raw
    (key, spelled) :: spellFields places c rest

/-- A list of nodes, with scalars spelled out. -/
def spellList (places : Places) (expected : NodeFamily) : Data → Data
  | .list items => .list (spellItems places expected 0 items)
  | data => data

/-- The items of a list of nodes from a position on, with scalars spelled out. -/
def spellItems (places : Places) (expected : NodeFamily) (position : Nat) :
    List Data → List Data
  | [] => []
  | item :: rest =>
    spellNode (places.behind (.item position)) expected item
      :: spellItems places expected (position + 1) rest

/-- The rows of a table, with scalars spelled out. -/
def spellRowList (places : Places) : Data → Data
  | .list rows => .list (spellRows places 0 rows)
  | data => data

/-- The rows of a table from a position on, with scalars spelled out. -/
def spellRows (places : Places) (position : Nat) : List Data → List Data
  | [] => []
  | row :: rest =>
    spellList (places.behind (.item position)) .expression row
      :: spellRows places (position + 1) rest

end

/-- A block with scalars spelled out. -/
def spellBlock (places : Places) : Data → Data
  | .dict entries =>
    .dict (Keyed.modify "commands" (spellList (places.behind (.key "commands")) .command) entries)
  | data => data

/-- Blocks from a position on, with scalars spelled out. -/
def spellBlocks (places : Places) (position : Nat) : List Data → List Data
  | [] => []
  | block :: rest =>
    spellBlock (places.behind (.item position)) block :: spellBlocks places (position + 1) rest

/-- A list of blocks, with scalars spelled out. -/
def spellBlockList (places : Places) : Data → Data
  | .list blocks => .list (spellBlocks places 0 blocks)
  | data => data

/-- A script with the scalars spelled out at some places where expressions are expected. -/
def spellScript (places : Places) : Data → Data
  | .dict entries =>
    .dict (Keyed.modify "blocks" (spellBlockList (places.behind (.key "blocks"))) entries)
  | data => data

/-! ## What is not spelled out -/

/-- Whether a key of a class is no field, or one that holds a number. -/
def isBare (c : NodeClass) (key : String) : Bool :=
  reserved.contains key || fieldType? c key == some .whole

theorem lookup_spellFields {c : NodeClass} {key : String} (h : isBare c key = true)
    (places : Places) (entries : List (String × Data)) :
    (spellFields places c entries).lookup key = entries.lookup key := by
  induction entries with
  | nil => rfl
  | cons entry rest ih =>
    obtain ⟨k, raw⟩ := entry
    rw [spellFields, List.lookup_cons, List.lookup_cons, ih]
    by_cases hk : key = k
    · subst hk
      simp only [beq_self_eq_true]
      split
      · rfl
      · next hr =>
        rw [isBare, Bool.eq_false_iff.2 hr, Bool.false_or] at h
        rw [eq_of_beq h]
    · rw [beq_eq_false_iff_ne.2 hk]

theorem lookup_spellFields_reserved {key : String} (h : reserved.contains key = true)
    (places : Places) (c : NodeClass) (entries : List (String × Data)) :
    (spellFields places c entries).lookup key = entries.lookup key :=
  lookup_spellFields (by rw [isBare, h]; rfl) places entries

theorem isNull_spellNode (places : Places) (expected : NodeFamily) (data : Data) :
    (spellNode places expected data).isNull = data.isNull := by
  cases data <;> simp only [spellNode] <;> split <;> rfl

section Loader

variable {source : Source}

/-! ## Single steps of the loader -/

/-- A bare scalar is loaded as the literal that it stands for. -/
theorem scalar_spelled (data : Data) :
    SameOutcome (node source .expression (spellScalar data)) (node source .expression data) := by
  cases data with
  | bool b => exact fun _ _ => Iff.rfl
  | int i => exact fun _ _ => Iff.rfl
  | real x => exact fun _ _ => Iff.rfl
  | text s => exact fun _ _ => Iff.rfl
  | null | list _ | dict _ => exact .refl _

theorem nodeClass_of_named {entries : List (String × Data)} {c : NodeClass}
    (h : namedClass? entries = some c) (expected : NodeFamily) :
    nodeClass expected entries =
      if c.fits expected then pure c else refuse (.misplaced c expected) := by
  unfold namedClass? at h
  unfold nodeClass
  cases hl : entries.lookup "node" with
  | none =>
    rw [hl] at h
    cases h
  | some data =>
    rw [hl] at h
    cases data with
    | text s =>
      simp only at h ⊢
      rw [h]
    | _ => cases h

theorem number_spelled (places : Places) (c : NodeClass) (entries : List (String × Data)) :
    number c (spellFields places c entries) = number c entries := by
  unfold number
  cases c with
  | ifCommand =>
    simp only [NodeClass.idField?]
    rw [lookup_spellFields rfl]
  | assignment =>
    simp only [NodeClass.idField?]
    rw [lookup_spellFields rfl]
  | _ => rfl

theorem nodeSpan_spelled (places : Places) (c : NodeClass) (entries : List (String × Data))
    (fields : Fields) :
    nodeSpan source (spellFields places c entries) fields = nodeSpan source entries fields := by
  unfold nodeSpan
  rw [lookup_spellFields_reserved rfl]

/-! ## Nodes -/

mutual

theorem node_spelled : ∀ (data : Data) (places : Places) (expected : NodeFamily),
    SameOutcome (node source expected (spellNode places expected data)) (node source expected data)
  | .null, places, expected | .bool _, places, expected | .int _, places, expected
  | .real _, places, expected | .text _, places, expected | .list _, places, expected => by
    simp only [spellNode]
    split
    · next h =>
      obtain ⟨rfl, -⟩ := h
      exact scalar_spelled _
    · exact .refl _
  | .dict entries, places, expected => by
    rw [spellNode]
    split
    · next c hc =>
      have hc' : namedClass? (spellFields places c entries) = some c := by
        unfold namedClass? at hc ⊢
        rw [lookup_spellFields_reserved rfl]
        exact hc
      rw [node, node, nodeClass_of_named hc, nodeClass_of_named hc']
      split
      · rw [pure_bind, pure_bind, number_spelled]
        refine .bind (.refl _) fun id => .bind (fieldsOf_spelled c entries places) fun fields => ?_
        rw [nodeSpan_spelled]
        exact .refl _
      · exact .refl _
    · exact .refl _

theorem fieldsOf_spelled (c : NodeClass) :
    ∀ (entries : List (String × Data)) (places : Places),
      SameOutcome (fieldsOf source c (spellFields places c entries)) (fieldsOf source c entries)
  | [], _ => .refl _
  | (key, raw) :: rest, places => by
    rw [spellFields, fieldsOf, fieldsOf]
    split
    · exact fieldsOf_spelled c rest places
    have after {m m' : Load FieldValue} (hm : SameOutcome m m') : SameOutcome
        (do
          let value ← m
          let others ← fieldsOf source c (spellFields places c rest)
          pure ((key, value) :: others))
        (do
          let value ← m'
          let others ← fieldsOf source c rest
          pure ((key, value) :: others)) :=
      hm.bind fun value => (fieldsOf_spelled c rest places).bind fun others => .refl _
    dsimp only
    unfold fieldType?
    generalize (c.field? key).map NodeField.type = found at after ⊢
    cases found with
    | none => exact after (.refl _)
    | some type =>
      cases type with
      | expression => exact after (.map _ (node_spelled raw _ .expression))
      | optionalExpression =>
        dsimp only
        rw [isNull_spellNode]
        split
        · exact after (.refl (pure FieldValue.nothing))
        · exact after (.map _ (node_spelled raw _ .expression))
      | expressions => exact after (.map _ (nodeList_spelled _ raw _ .expression))
      | commands => exact after (.map _ (nodeList_spelled _ raw _ .command))
      | branches => exact after (.map _ (nodeList_spelled _ raw _ .branch))
      | blocks => exact after (.map _ (nodeList_spelled _ raw _ .block))
      | expressionRows => exact after (.map _ (rowList_spelled _ raw _))
      | _ => exact after (.refl _)

theorem nodeList_spelled (place : String) : ∀ (data : Data) (places : Places)
    (expected : NodeFamily), SameOutcome
      (nodeList source expected place (spellList places expected data))
      (nodeList source expected place data)
  | .list items, places, expected => nodes_spelled items places expected 0
  | .null, _, _ | .bool _, _, _ | .int _, _, _ | .real _, _, _ | .text _, _, _ | .dict _, _, _ =>
    .refl _

theorem nodes_spelled : ∀ (items : List Data) (places : Places) (expected : NodeFamily)
    (position : Nat), SameOutcome
      (nodes source expected (spellItems places expected position items))
      (nodes source expected items)
  | [], _, _, _ => .refl _
  | item :: rest, places, expected, position => by
    rw [spellItems, nodes, nodes]
    exact .bind (node_spelled item _ expected) fun n =>
      .bind (nodes_spelled rest places expected (position + 1)) fun others => .refl _

theorem rowList_spelled (place : String) : ∀ (data : Data) (places : Places), SameOutcome
    (rowList source place (spellRowList places data)) (rowList source place data)
  | .list items, places => rows_spelled place items places 0
  | .null, _ | .bool _, _ | .int _, _ | .real _, _ | .text _, _ | .dict _, _ => .refl _

theorem rows_spelled (place : String) : ∀ (items : List Data) (places : Places)
    (position : Nat), SameOutcome
      (rows source place (spellRows places position items)) (rows source place items)
  | [], _, _ => .refl _
  | item :: rest, places, position => by
    rw [spellRows, rows, rows]
    exact .bind (row_spelled place item _) fun r =>
      .bind (rows_spelled place rest places (position + 1)) fun others => .refl _

theorem row_spelled (place : String) : ∀ (data : Data) (places : Places), SameOutcome
    (row source place (spellList places .expression data)) (row source place data)
  | .list items, places => cells_spelled items places 0
  | .null, _ | .bool _, _ | .int _, _ | .real _, _ | .text _, _ | .dict _, _ => .refl _

theorem cells_spelled : ∀ (items : List Data) (places : Places) (position : Nat), SameOutcome
    (cells source (spellItems places .expression position items)) (cells source items)
  | [], _, _ => .refl _
  | item :: rest, places, position => by
    rw [spellItems, cells, cells, isNull_spellNode]
    have after (cell : Expr) : SameOutcome
        (do
          let others ← cells source (spellItems places .expression (position + 1) rest)
          pure (cell :: others))
        (do
          let others ← cells source rest
          pure (cell :: others)) :=
      .bind (cells_spelled rest places (position + 1)) fun _ => .refl _
    split
    · exact after .absent
    · refine .bind (node_spelled item _ .expression) fun n => ?_
      cases n with
      | expr e => exact after e
      | _ => exact after .absent

end

/-! ## Scripts -/

theorem blockCommands_spelled : ∀ (items : List Data) (places : Places) (position : Nat),
    SameOutcome (blockCommands source (spellItems places .command position items))
      (blockCommands source items) := by
  intro items places position
  refine .bind ?_ fun built => .refl _
  induction items generalizing position with
  | nil => exact .refl _
  | cons item rest ih =>
    rw [spellItems, List.mapM_cons, List.mapM_cons]
    exact .bind (node_spelled item _ .command) fun n => .bind (ih (position + 1)) fun ns => .refl _

theorem block_spelled (places : Places) (data : Data) :
    SameOutcome (block source (spellBlock places data)) (block source data) := by
  cases data with
  | dict entries =>
    have commands (raw : Option Data) : SameOutcome
        (orBreak ((raw.map (spellList (places.behind (.key "commands")) .command)).getD
          .null).toItems >>= blockCommands source)
        (orBreak (raw.getD .null).toItems >>= blockCommands source) := by
      cases raw with
      | none => exact .refl _
      | some raw =>
        cases raw with
        | list items =>
          simp only [Option.map_some, Option.getD_some, spellList, toItems_list]
          exact blockCommands_spelled items _ 0
        | _ => exact .refl _
    simp only [block, spellBlock, Data.get?, Keyed.lookup_modify]
    rw [if_neg (by decide), if_pos trivial]
    split
    · exact .refuse _ _
    · refine .bind (.refl _) fun kind => ?_
      rw [← bind_assoc, ← bind_assoc]
      exact .bind (commands _) fun built => .refl _
  | _ => exact .refl _

theorem blocks_spelled : ∀ (blocks : List Data) (places : Places) (position : Nat),
    SameOutcome ((spellBlocks places position blocks).mapM (block source))
      (blocks.mapM (block source))
  | [], _, _ => .refl _
  | b :: rest, places, position => by
    rw [spellBlocks, List.mapM_cons, List.mapM_cons]
    exact .bind (block_spelled _ b) fun _ =>
      .bind (blocks_spelled rest places (position + 1)) fun _ => .refl _

theorem scriptOf_spelled (places : Places) (data : Data) :
    SameOutcome (scriptOf source (spellScript places data)) (scriptOf source data) := by
  cases data with
  | dict entries =>
    have blocks (raw : Data) : SameOutcome
        (orBreak (spellBlockList (places.behind (.key "blocks")) raw).toItems >>=
          List.mapM (block source))
        (orBreak raw.toItems >>= List.mapM (block source)) := by
      cases raw with
      | list blocks =>
        simp only [spellBlockList, toItems_list]
        exact blocks_spelled blocks _ 0
      | _ => exact .refl _
    simp only [scriptOf, spellScript, Data.get?, Keyed.lookup_modify]
    rw [if_pos trivial, if_neg (by decide)]
    cases entries.lookup "blocks" with
    | none => exact .refl _
    | some raw =>
      simp only [Option.map_some]
      rw [← bind_assoc, ← bind_assoc]
      exact .bind (blocks raw) fun built => .refl _
  | _ => exact .refl _

end Loader

/-- Spelling out bare scalars, at whichever places expressions are expected, does not change what
a script is loaded as: the data is refused in both forms, or describes the same script with the same
numbers. -/
theorem loadScript_spelled (source : Source) (places : Places) (data : Data) (script : Script) :
    loadScript source (spellScript places data) = .ok script ↔
      loadScript source data = .ok script := by
  rw [loadScript_eq_ok_iff, loadScript_eq_ok_iff]
  exact exists_congr fun n => scriptOf_spelled places data {} (script, n)

/-- A block with one conditional on a bare truth value, which holds a table with a bare option and a
row of a number and an empty cell. -/
def shorthandBlock (condition option cell : Data) : Data :=
  .dict [("kind", .text "GUI"), ("commands", .list [.dict [("node", .text "IfCommand"),
    ("branches", .list [.dict [("node", .text "IfBranch"), ("condition", condition),
      ("commands", .list [.dict [("node", .text "BeginTable"), ("identifier", .text "T"),
        ("options", .list [option]), ("rows", .list [.list [cell, .null]])]])]])]])]

example : spellScript (fun _ => true)
      (.dict [("blocks", .list [shorthandBlock (.bool true) (.text "A") (.int 1)])]) =
    .dict [("blocks", .list [shorthandBlock (literalNode .boolLiteral (.bool true))
      (literalNode .stringLiteral (.text "A")) (literalNode .intLiteral (.int 1))])] := by
  rfl

end DialogScript.Tree
