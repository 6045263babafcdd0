import DialogScript.Proofs.Loading.Loaded

/-!
The nodes under a node. A field of a class lists nodes of one family, and what the loader builds for
a family belongs to it; so an assembled node holds just the nodes that its fields list.
-/

namespace DialogScript

/-! ## The nodes in a tree -/

/-- The family of a node. -/
def Node.family : Node → NodeFamily
  | expr _ => .expression
  | command _ => .command
  | branch _ => .branch
  | block _ => .block
  | script _ => .script

/-- The nodes in a field of a node. -/
def Node.under (key : String) : Node → List Node
  | command (.conditional _ branches otherwise _) =>
    if key = "branches" then branches.map branch
    else if key = "else_commands" then otherwise.map command
    else []
  | command (.forLoop _ _ _ _ body) | command (.whileLoop _ _ body) =>
    if key = "commands" then body.map command else []
  | branch b => if key = "commands" then b.commands.map command else []
  | block b => if key = "commands" then b.commands.map command else []
  | script s => if key = "blocks" then s.blocks.map block else []
  | _ => []

/-- The fields of a node that hold nodes other than expressions, in the order of the tree. -/
def Node.places : Node → List String
  | command (.conditional ..) => ["branches", "else_commands"]
  | command (.forLoop ..) | command (.whileLoop ..) | branch _ | block _ => ["commands"]
  | script _ => ["blocks"]
  | _ => []

theorem Node.under_of_not_mem {n : Node} {key : String} (h : key ∉ n.places) :
    n.under key = [] := by
  cases n with
  | command x =>
    cases x <;> simp_all [places, under]
  | _ => simp_all [places, under]

namespace Tree

/-! ## The nodes in fields -/

/-- The family of the nodes that a field of a type lists, unless they are expressions. -/
def listedFamily? : FieldType → Option NodeFamily
  | .commands => some .command
  | .branches => some .branch
  | .blocks => some .block
  | _ => none

/-- The nodes of a family in the content of a field. -/
def listed (family : Option NodeFamily) : FieldValue → List Node
  | .nodes items => items.filter fun n => family == some n.family
  | _ => []

/-- The nodes other than expressions in a field of a class. -/
def Fields.under (fields : Fields) (c : NodeClass) (key : String) : List Node :=
  match fields.lookup key with
  | some value => listed ((fieldType? c key).bind listedFamily?) value
  | none => []

theorem listed_none (value : FieldValue) : listed none value = [] := by
  cases value with
  | nodes items => exact List.filter_eq_nil_iff.2 fun n _ => nofun
  | _ => rfl

theorem Fields.under_of_field {fields : Fields} {c : NodeClass} {key : String} (type : FieldType)
    (h : fieldType? c key = some type) : fields.under c key =
      (fields.nodes key).filter fun n => listedFamily? type == some n.family := by
  unfold Fields.under Fields.nodes
  rw [h]
  cases fields.lookup key with
  | none => rfl
  | some value => cases value <;> rfl

theorem Fields.under_cons_self (c : NodeClass) (key : String) (value : FieldValue)
    (fields : Fields) : Fields.under ((key, value) :: fields) c key =
      listed ((fieldType? c key).bind listedFamily?) value := by
  rw [Fields.under, List.lookup_cons_self]

theorem Fields.under_cons_of_ne {c : NodeClass} {key name : String} (h : name ≠ key)
    (value : FieldValue) (fields : Fields) :
    Fields.under ((key, value) :: fields) c name = fields.under c name := by
  rw [Fields.under, Fields.under, List.lookup_cons, beq_eq_false_iff_ne.2 h]

/-- The fields of a class that list nodes other than expressions. -/
def listedKeys (c : NodeClass) : List String :=
  ((c.ownFields ++ c.commonFields).filter fun f => (listedFamily? f.type).isSome).map NodeField.name

theorem listedKeys_nodup (c : NodeClass) : (listedKeys c).Nodup := by
  cases c <;> decide

theorem Fields.under_of_not_mem (fields : Fields) {c : NodeClass} {key : String}
    (h : key ∉ listedKeys c) : fields.under c key = [] := by
  unfold Fields.under
  cases fields.lookup key with
  | none => rfl
  | some value =>
    have hnone : (fieldType? c key).bind listedFamily? = none := by
      refine Option.bind_eq_none_iff.2 fun type htype => ?_
      obtain ⟨f, hf, rfl⟩ := Option.map_eq_some_iff.1 htype
      refine Option.not_isSome_iff_eq_none.1 fun hlisted => h (List.mem_map.2 ⟨f, ?_, ?_⟩)
      · exact List.mem_filter.2 ⟨List.mem_of_find?_eq_some hf, hlisted⟩
      · unfold NodeClass.field? at hf
        have hname := List.find?_some hf
        exact eq_of_beq hname
    simp only [hnone, listed_none]

section Assembled

variable (source : Source) (span : Option Span) (id : Int) (fields : Fields) (c : NodeClass)

/-- The nodes of a family among some nodes, taken out of their wrapping and put back into it. -/
theorem map_filterMap_family {α : Type} {pick : Node → Option α} {wrap : α → Node}
    {family : NodeFamily}
    (h : ∀ n, (pick n).map wrap = if some family == some n.family then some n else none)
    (ns : List Node) : (ns.filterMap pick).map wrap =
      ns.filter fun n => some family == some n.family := by
  rw [List.map_filterMap, ← List.filterMap_eq_filter]
  refine congrArg (List.filterMap · ns) (funext fun n => ?_)
  rw [h, Option.guard]

theorem map_commands (key : String) : (fields.commands key).map Node.command =
    (fields.nodes key).filter fun n => some NodeFamily.command == some n.family :=
  map_filterMap_family (fun n => by cases n <;> rfl) _

theorem map_branches (key : String) : (fields.branches key).map Node.branch =
    (fields.nodes key).filter fun n => some NodeFamily.branch == some n.family :=
  map_filterMap_family (fun n => by cases n <;> rfl) _

theorem map_blocks (key : String) : (fields.blocks key).map Node.block =
    (fields.nodes key).filter fun n => some NodeFamily.block == some n.family :=
  map_filterMap_family (fun n => by cases n <;> rfl) _

/-- A node of a class belongs to the family of the class. -/
theorem family_assemble : (assemble source span id fields c).family = c.family := by
  cases c <;> rfl

theorem places_assemble : (assemble source span id fields c).places = listedKeys c := by
  cases c <;> rfl

/-- A node holds the nodes that its fields list. -/
theorem under_assemble (key : String) :
    (assemble source span id fields c).under key = fields.under c key := by
  by_cases h : key ∈ listedKeys c
  · cases c with
    | ifCommand =>
      obtain rfl | rfl : key = "branches" ∨ key = "else_commands" := by
        simpa using show key ∈ ["branches", "else_commands"] from h
      · exact (map_branches fields _).trans (Fields.under_of_field .branches rfl).symm
      · exact (map_commands fields _).trans (Fields.under_of_field .commands rfl).symm
    | script =>
      obtain rfl : key = "blocks" := List.mem_singleton.1 h
      exact (map_blocks fields _).trans (Fields.under_of_field .blocks rfl).symm
    | forCommand | whileCommand | ifBranch | block =>
      obtain rfl : key = "commands" := List.mem_singleton.1 h
      exact (map_commands fields _).trans (Fields.under_of_field .commands rfl).symm
    | _ => exact absurd h List.not_mem_nil
  · rw [Node.under_of_not_mem (places_assemble source span id fields c ▸ h),
      Fields.under_of_not_mem fields h]

end Assembled

theorem listed_of_family {family : NodeFamily} {ns : List Node}
    (h : ∀ n ∈ ns, n.family = family) : listed (some family) (.nodes ns) = ns := by
  refine List.filter_eq_self.2 fun n hn => ?_
  rw [h n hn]
  exact beq_self_eq_true _

/-! ## The loading of fields -/

/-- The loading of the content of a field. -/
def fieldContent (source : Source) (c : NodeClass) (key : String) (raw : Data) : Load FieldValue :=
  let place := c.name ++ "." ++ key
  match fieldType? c key with
  | none => refuse (.unknownField c key)
  | some .whole => FieldValue.whole <$> whole place raw
  | some .real => FieldValue.real <$> real place raw
  | some .text => FieldValue.text <$> text place raw
  | some .truth => FieldValue.truth <$> truth place raw
  | some .operator => FieldValue.operator <$> operator place raw
  | some .subtype => FieldValue.subtype <$> subtype place raw
  | some .variableKind => FieldValue.variableKind <$> variableKind place raw
  | some .blockKind => FieldValue.blockKind <$> blockKind place raw
  | some .optionalSubtype => optional (subtype place) FieldValue.subtype raw
  | some .optionalText => optional (text place) FieldValue.text raw
  | some .texts => FieldValue.texts <$> texts place raw
  | some .span => optional pure FieldValue.span raw
  | some .expression => FieldValue.node <$> node source .expression raw
  | some .optionalExpression =>
    if raw.isNull then pure .nothing else FieldValue.node <$> node source .expression raw
  | some .expressions => FieldValue.nodes <$> nodeList source .expression place raw
  | some .commands => FieldValue.nodes <$> nodeList source .command place raw
  | some .branches => FieldValue.nodes <$> nodeList source .branch place raw
  | some .blocks => FieldValue.nodes <$> nodeList source .block place raw
  | some .expressionRows => FieldValue.rows <$> rowList source place raw

theorem fieldsOf_cons {source : Source} {c : NodeClass} {key : String}
    (h : reserved.contains key = false) (raw : Data) (rest : List (String × Data)) :
    fieldsOf source c ((key, raw) :: rest) = (do
      let value ← fieldContent source c key raw
      let others ← fieldsOf source c rest
      pure ((key, value) :: others)) := by
  rw [fieldsOf, if_neg (by rw [h]; exact Bool.false_ne_true), fieldContent]
  unfold fieldType?
  cases (c.field? key).map NodeField.type with
  | none => rfl
  | some type =>
    cases type with
    | optionalExpression => cases raw.isNull <;> simp
    | _ => rfl

theorem fieldsOf_reserved {source : Source} {c : NodeClass} {key : String}
    (h : reserved.contains key = true) (raw : Data) (rest : List (String × Data)) :
    fieldsOf source c ((key, raw) :: rest) = fieldsOf source c rest := by
  rw [fieldsOf, if_pos h]

/-- A field has the content that its data is loaded as. -/
theorem lookup_fieldsOf {source : Source} {c : NodeClass} {key : String}
    (hr : reserved.contains key = false) {entries : List (String × Data)} {k k' : Numbering}
    {fields : Fields} (h : fieldsOf source c entries k = .ok (fields, k')) :
    match entries.lookup key with
    | none => fields.lookup key = none
    | some raw => ∃ value n n', fieldContent source c key raw n = .ok (value, n') ∧
        fields.lookup key = some value := by
  induction entries generalizing k fields with
  | nil =>
    cases h
    rfl
  | cons entry rest ih =>
    obtain ⟨name, raw⟩ := entry
    rw [List.lookup_cons]
    cases hname : reserved.contains name with
    | true =>
      rw [fieldsOf_reserved hname] at h
      have hne : (key == name) = false := by
        refine beq_eq_false_iff_ne.2 fun heq => ?_
        rw [heq, hname] at hr
        cases hr
      rw [hne]
      exact ih h
    | false =>
      rw [fieldsOf_cons hname] at h
      obtain ⟨value, n, hvalue, h⟩ := bind_eq_ok_iff.1 h
      obtain ⟨others, n', hothers, h⟩ := bind_eq_ok_iff.1 h
      cases h
      rw [List.lookup_cons]
      cases heq : key == name with
      | true =>
        obtain rfl := eq_of_beq heq
        exact ⟨value, k, n, hvalue, rfl⟩
      | false => exact ih hothers

theorem under_of_not_given {source : Source} {c : NodeClass} {entries : List (String × Data)}
    {k k' : Numbering} {fields : Fields} (h : fieldsOf source c entries k = .ok (fields, k'))
    {key : String} (hr : reserved.contains key = false) (hk : key ∉ Keyed.keys entries) :
    fields.under c key = [] := by
  have hlookup := lookup_fieldsOf hr h
  have hnone : entries.lookup key = none := by
    refine List.lookup_eq_none_iff.2 fun e he => bne_iff_ne.2 ?_
    rintro rfl
    exact hk (List.mem_map_of_mem he)
  rw [hnone] at hlookup
  unfold Fields.under
  rw [hlookup]

theorem not_reserved_of_listed {c : NodeClass} {key : String} (h : key ∈ listedKeys c) :
    reserved.contains key = false := by
  have hall : (listedKeys c).all (fun key => !reserved.contains key) = true := by
    cases c <;> rfl
  simpa using List.all_eq_true.1 hall key h

/-! ## Families -/

section Loader

variable {source : Source}

/-- What is built where a family is asked for belongs to it. -/
theorem node_family {expected : NodeFamily} (h : expected ≠ .any) (data : Data) :
    Yields (fun n => n.family = expected) (node source expected data) := by
  have scalar (data : Data) : Yields (fun n => n.family = expected)
      (if expected = .expression then Node.expr <$> literal data
        else refuse (.notANode expected data)) := by
    split
    · next he => exact .map (.any _) fun _ _ => he.symm
    · exact .refuse _
  cases data with
  | dict entries =>
    rw [node]
    refine .bind (nodeClass_fits expected entries) fun c' hc => .bind (.any _) fun id _ => ?_
    refine .bind (.any _) fun fields _ => .bind (.any _) fun span _ => ?_
    split
    · refine .pure ((family_assemble source span id fields c').trans ?_)
      simpa [NodeClass.fits, h] using hc
    · exact .refuse _
  | _ => exact scalar _

theorem nodes_family {expected : NodeFamily} (h : expected ≠ .any) (items : List Data) :
    Yields (fun ns => ∀ n ∈ ns, n.family = expected) (nodes source expected items) := by
  induction items with
  | nil => exact .pure fun _ hn => absurd hn List.not_mem_nil
  | cons item rest ih =>
    rw [nodes]
    refine .bind (node_family h item) fun n hn => .bind ih fun ns hns => ?_
    exact .pure (List.forall_mem_cons.2 ⟨hn, hns⟩)

theorem nodeList_family {expected : NodeFamily} (h : expected ≠ .any) (place : String)
    (data : Data) :
    Yields (fun ns => ∀ n ∈ ns, n.family = expected) (nodeList source expected place data) := by
  cases data with
  | null => exact .pure fun _ hn => absurd hn List.not_mem_nil
  | list items => exact nodes_family h items
  | _ => exact .refuse _

end Loader

end Tree

end DialogScript
