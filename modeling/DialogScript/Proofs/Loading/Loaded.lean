import DialogScript.Keyed
import DialogScript.Proofs.Loading.Intact

/-!
What the loader builds is intact. A node is assembled from the fields that its class asks for, each
converted to the type that the class gives it; a field for an operand is one that must be given, and
no data but the marked name makes an empty slot.
-/

namespace DialogScript.Tree

/-! ## What a loading gives -/

/-- A loading in two steps gives what the second gives from what the first has left. -/
theorem bind_eq_ok_iff {α β : Type} {m : Load α} {f : α → Load β} {n : Numbering}
    {r : β × Numbering} :
    (m >>= f) n = .ok r ↔ ∃ a n', m n = .ok (a, n') ∧ f a n' = .ok r := by
  rw [show (m >>= f) n = m n >>= fun s => f s.1 s.2 from rfl]
  cases h : m n with
  | error e => exact ⟨nofun, nofun⟩
  | ok s =>
    refine ⟨fun hr => ⟨s.1, s.2, rfl, hr⟩, ?_⟩
    rintro ⟨a, n', ⟨⟩, hr⟩
    exact hr

theorem loadScript_eq_ok_iff {source : Source} {data : Data} {script : Script} :
    loadScript source data = .ok script ↔ ∃ n, scriptOf source data {} = .ok (script, n) := by
  unfold loadScript
  change Prod.fst <$> scriptOf source data {} = _ ↔ _
  cases h : scriptOf source data {} with
  | error e => exact ⟨nofun, nofun⟩
  | ok r =>
    constructor
    · rintro ⟨⟩
      exact ⟨r.2, rfl⟩
    · rintro ⟨n, ⟨⟩⟩
      rfl

theorem toItems_list (items : List Data) : (Data.list items).toItems = .ok items := by
  cases items <;> rfl

/-- What the loading gives has `P`, if it gives anything. -/
def Yields {α : Type} (P : α → Prop) (m : Load α) : Prop :=
  ∀ n a n', m n = .ok (a, n') → P a

namespace Yields

variable {α β : Type} {P : α → Prop} {Q : β → Prop}

theorem pure {a : α} (h : P a) : Yields P (Pure.pure a : Load α) := by
  intro n b n' hb
  cases hb
  exact h

theorem refuse (e : LoadError) : Yields P (Tree.refuse e : Load α) := by
  intro n a n' ha
  cases ha

theorem throw (e : LoadFailure) : Yields P (MonadExcept.throw e : Load α) := by
  intro n a n' ha
  cases ha

theorem any (m : Load α) : Yields (fun _ => True) m := fun _ _ _ _ => trivial

theorem bind {m : Load α} {f : α → Load β} (hm : Yields P m) (hf : ∀ a, P a → Yields Q (f a)) :
    Yields Q (m >>= f) := by
  intro n b n' hb
  obtain ⟨a, k, ha, hb⟩ := bind_eq_ok_iff.1 hb
  exact hf a (hm n a k ha) k b n' hb

theorem map {m : Load α} {f : α → β} (hm : Yields P m) (hf : ∀ a, P a → Q (f a)) :
    Yields Q (f <$> m) :=
  hm.bind fun a ha => pure (hf a ha)

theorem mapM {f : α → Load β} (hf : ∀ a, Yields Q (f a)) (items : List α) :
    Yields (fun bs => ∀ b ∈ bs, Q b) (items.mapM f) := by
  induction items with
  | nil =>
    rw [List.mapM_nil]
    exact pure fun _ h => absurd h List.not_mem_nil
  | cons a rest ih =>
    rw [List.mapM_cons]
    exact (hf a).bind fun b hb => ih.bind fun bs hbs => pure (List.forall_mem_cons.2 ⟨hb, hbs⟩)

end Yields

end DialogScript.Tree

namespace DialogScript

/-! ## Intact nodes and fields -/

/-- The slots of a node, if it is no expression. -/
def Node.slots : Node → List Expr
  | expr _ => []
  | command c => c.slots
  | branch b => b.slots
  | block b => Command.allSlots b.commands
  | script s => s.slots

/-- A node that is a filled expression, or has intact slots. -/
structure Node.IsIntact (n : Node) : Prop where
  filled : ∀ e, n = .expr e → e.isFilled = true
  slots : Intact n.slots

theorem Node.intact_expr {e : Expr} (h : e.isFilled = true) : (Node.expr e).IsIntact where
  filled := by
    rintro _ ⟨⟩
    exact h
  slots := .nil

theorem Node.intact_command {c : Command} (h : Intact c.slots) : (Node.command c).IsIntact where
  filled := by
    rintro _ ⟨⟩
  slots := h

/-- The content of a field whose nodes are intact. -/
def FieldValue.IsIntact : FieldValue → Prop
  | .node n => n.IsIntact
  | .nodes items => ∀ n ∈ items, n.IsIntact
  | .rows items => ∀ r ∈ items, Intact r
  | _ => True

namespace Tree

/-- The type of a field of a class. -/
def fieldType? (c : NodeClass) (name : String) : Option FieldType :=
  (c.field? name).map NodeField.type

/-- Whether a class has an expression that must be given. -/
def needsExpression (c : NodeClass) (name : String) : Bool :=
  (c.ownFields.any fun f => f.required && f.name == name) &&
    fieldType? c name == some .expression

/-- The intact content of a field of a type. A field for an expression holds one. -/
structure Content (type : Option FieldType) (value : FieldValue) : Prop where
  intact : value.IsIntact
  expression : type = some .expression → ∃ e, value = .node (.expr e)

theorem Content.other {type : Option FieldType} {value : FieldValue} (h : value.IsIntact)
    (ht : type ≠ some .expression) : Content type value := ⟨h, fun he => absurd he ht⟩

/-- Fields of a class with intact contents. A field for an expression holds one. -/
structure Fields.Fit (c : NodeClass) (fields : Fields) : Prop where
  intact : ∀ f ∈ fields, f.2.IsIntact
  expression : ∀ f ∈ fields, fieldType? c f.1 = some .expression → ∃ e, f.2 = .node (.expr e)

namespace Fields

variable {c : NodeClass} {fields : Fields}

theorem Fit.nil : Fit c [] where
  intact _ h := absurd h List.not_mem_nil
  expression _ h := absurd h List.not_mem_nil

theorem Fit.cons {name : String} {value : FieldValue} (hv : Content (fieldType? c name) value)
    (h : fields.Fit c) : Fit c ((name, value) :: fields) where
  intact := List.forall_mem_cons.2 ⟨hv.intact, h.intact⟩
  expression := List.forall_mem_cons.2 ⟨hv.expression, h.expression⟩

/-- A slot that is left out is empty. -/
theorem Fit.expr (h : fields.Fit c) (name : String) : (fields.expr name).isIntact = true := by
  unfold Fields.expr
  split
  · next e he =>
    exact Expr.isIntact_of_isFilled ((h.intact _ (Keyed.mem_of_lookup he)).filled e rfl)
  · rfl

theorem Fit.nodes (h : fields.Fit c) (name : String) : ∀ n ∈ fields.nodes name, n.IsIntact := by
  unfold Fields.nodes
  split
  · next items hi => exact h.intact _ (Keyed.mem_of_lookup hi)
  · exact fun _ hn => absurd hn List.not_mem_nil

theorem Fit.filledExprs (h : fields.Fit c) (name : String) :
    ∀ e ∈ fields.exprs name, e.isFilled = true := by
  intro e he
  obtain ⟨n, hn, hne⟩ := List.mem_filterMap.1 he
  cases n <;> cases hne
  exact (h.nodes name _ hn).filled e rfl

theorem Fit.exprs (h : fields.Fit c) (name : String) : Intact (fields.exprs name) :=
  fun e he => Expr.isIntact_of_isFilled (h.filledExprs name e he)

theorem Fit.rows (h : fields.Fit c) (name : String) : Intact (fields.rows name).flatten := by
  unfold Fields.rows
  split
  · next rows hr =>
    intro e he
    obtain ⟨r, hmem, her⟩ := List.mem_flatten.1 he
    exact h.intact _ (Keyed.mem_of_lookup hr) r hmem e her
  · exact .nil

theorem Fit.commands (h : fields.Fit c) (name : String) :
    Intact (Command.allSlots (fields.commands name)) := by
  refine Intact.allSlots_iff.2 fun c hc => ?_
  obtain ⟨n, hn, hnc⟩ := List.mem_filterMap.1 hc
  cases n <;> cases hnc
  exact (h.nodes name _ hn).slots

theorem Fit.branches (h : fields.Fit c) (name : String) :
    Intact (Command.branchSlots (fields.branches name)) := by
  refine Intact.branchSlots_iff.2 fun b hb => ?_
  obtain ⟨n, hn, hnb⟩ := List.mem_filterMap.1 hb
  cases n <;> cases hnb
  exact (h.nodes name _ hn).slots

theorem Fit.blocks (h : fields.Fit c) (name : String) :
    Intact ((fields.blocks name).flatMap fun b => Command.allSlots b.commands) := by
  intro e he
  obtain ⟨b, hb, heb⟩ := List.mem_flatMap.1 he
  obtain ⟨n, hn, hnb⟩ := List.mem_filterMap.1 hb
  cases n <;> cases hnb
  exact (h.nodes name _ hn).slots e heb

theorem Fit.display (h : fields.Fit c) : Intact fields.display.slots := by
  simp only [Fields.display, Display.slots, Intact.cons_iff, h.expr, Intact.nil, and_self]

theorem Fit.selection (h : fields.Fit c) {target : SelectTarget} (ht : Intact target.slots) :
    Intact (fields.selection target).slots := by
  simp only [Fields.selection, Selection.slots, Intact.append_iff, Intact.cons_iff, ht, h.exprs,
    h.expr, h.display, Intact.nil, and_self]

/-- A field that must be given holds a filled expression. -/
theorem Fit.filled (h : fields.Fit c) (hm : c.missing (fields.map Prod.fst) = []) (name : String)
    (hn : needsExpression c name = true) : (fields.expr name).isFilled = true := by
  obtain ⟨hneeded, htype⟩ := Bool.and_eq_true_iff.1 hn
  obtain ⟨f, hf, hname⟩ := List.any_eq_true.1 hneeded
  obtain ⟨hrequired, hname⟩ := Bool.and_eq_true_iff.1 hname
  obtain rfl := eq_of_beq hname
  have hgiven : f.name ∈ fields.map Prod.fst := by
    have hnone := List.filter_eq_nil_iff.1 (List.map_eq_nil_iff.1 hm) f hf
    simpa [hrequired] using hnone
  cases hl : fields.lookup f.name with
  | none =>
    obtain ⟨g, hmem, hg⟩ := List.mem_map.1 hgiven
    exact absurd hg.symm (bne_iff_ne.1 (List.lookup_eq_none_iff.1 hl g hmem))
  | some value =>
    obtain ⟨e, he⟩ := h.expression _ (Keyed.mem_of_lookup hl) (eq_of_beq htype)
    obtain rfl : value = .node (.expr e) := he
    have hexpr : fields.expr f.name = e := by
      unfold Fields.expr
      rw [hl]
    rw [hexpr]
    exact (h.intact _ (Keyed.mem_of_lookup hl)).filled e rfl

end Fields

/-! ## Assembled nodes -/

/-- A node of a class of expressions is an expression. -/
theorem assemble_expression (source : Source) (span : Option Span) (id : Int) (fields : Fields)
    {c : NodeClass} (h : c.family = .expression) :
    ∃ e, assemble source span id fields c = .expr e := by
  cases c <;> first | exact ⟨_, rfl⟩ | cases h

theorem variableOrSlot_eq {source : Source} (hs : source.emptySlot = none) (span : Option Span)
    (name : String) : variableOrSlot source span name = .named span name := by
  rw [variableOrSlot, hs]
  exact if_neg nofun

/-- A node with all the fields that its class needs is intact. -/
theorem assemble_intact {source : Source} (hs : source.emptySlot = none) (span : Option Span)
    (id : Int) {c : NodeClass} {fields : Fields} (h : fields.Fit c)
    (hm : c.missing (fields.map Prod.fst) = []) : (assemble source span id fields c).IsIntact := by
  cases c with
  | intLiteral | doubleLiteral | stringLiteral | boolLiteral | constant =>
    exact Node.intact_expr rfl
  | variableRef =>
    refine Node.intact_expr ?_
    rw [variableOrSlot_eq hs]
    rfl
  | unaryOp =>
    have operand := h.filled hm "operand" rfl
    exact Node.intact_expr operand
  | binaryOp =>
    have left := h.filled hm "left" rfl
    have right := h.filled hm "right" rfl
    exact Node.intact_expr (Bool.and_eq_true_iff.2 ⟨left, right⟩)
  | functionCall => exact Node.intact_expr (Expr.allFilled_iff.2 (h.filledExprs "args"))
  | arrayIndex =>
    have base := h.filled hm "base" rfl
    have index := h.filled hm "index" rfl
    exact Node.intact_expr (Bool.and_eq_true_iff.2 ⟨base, index⟩)
  | mapLookup =>
    have map := h.filled hm "map" rfl
    exact Node.intact_expr map
  | structAccess =>
    have struct := h.filled hm "structure" rfl
    exact Node.intact_expr struct
  | selectCommand | userSelect | userSelectOptional =>
    exact Node.intact_command (h.selection .nil)
  | userSelectMultiple | userSelectMultipleOptional =>
    exact Node.intact_command (h.selection (Intact.cons_iff.2 ⟨h.expr _, .nil⟩))
  | ifBranch =>
    exact ⟨nofun, Intact.cons_iff.2 ⟨h.expr _, h.commands _⟩⟩
  | ifCommand =>
    exact Node.intact_command (Intact.append_iff.2 ⟨h.branches _, h.commands _⟩)
  | forCommand =>
    exact Node.intact_command (Intact.append_iff.2 ⟨h.exprs _, h.commands _⟩)
  | whileCommand =>
    exact Node.intact_command (Intact.cons_iff.2 ⟨h.expr _, h.commands _⟩)
  | block => exact ⟨nofun, h.commands _⟩
  | script => exact ⟨nofun, h.blocks _⟩
  | _ =>
    -- an action whose slots are all read off its fields
    refine Node.intact_command ?_
    simp only [Command.slots, Action.slots, InputParam.slots, SelectionTable.slots,
      Intact.append_iff, Intact.cons_iff, Intact.nil, h.expr, h.exprs, h.rows, h.display, and_self]

/-! ## The loader -/

/-- What is built for a family is intact, and an expression where one is asked for. -/
def Built (expected : NodeFamily) (n : Node) : Prop :=
  n.IsIntact ∧ (expected = .expression → ∃ e, n = .expr e)

theorem nodeClass_fits (expected : NodeFamily) (entries : List (String × Data)) :
    Yields (fun c => c.fits expected = true) (nodeClass expected entries) := by
  unfold nodeClass
  split
  · exact .refuse _
  · split
    · exact .refuse _
    · split
      · next hc => exact .pure hc
      · exact .refuse _
  · exact .throw _
  · exact .throw _
  · exact .refuse _

theorem literal_filled (data : Data) : Yields (fun e => e.isFilled = true) (literal data) := by
  cases data with
  | null | list _ | dict _ => exact .refuse _
  | _ => exact .pure rfl

/-- A scalar stands for a literal. -/
theorem scalar_built (expected : NodeFamily) (data : Data) :
    Yields (Built expected)
      (if expected = .expression then Node.expr <$> literal data
        else refuse (.notANode expected data)) := by
  split
  · exact .map (literal_filled data) fun e he => ⟨Node.intact_expr he, fun _ => ⟨e, rfl⟩⟩
  · exact .refuse _

/-- A field that may be null holds no node. -/
theorem optional_content (type : FieldType) (ht : type ≠ .expression) {α : Type}
    {load : Data → Load α} (wrap : α → FieldValue) (hw : ∀ a, (wrap a).IsIntact) (data : Data) :
    Yields (Content (some type)) (optional load wrap data) := by
  have hother : some type ≠ some .expression := fun h => ht (Option.some.inj h)
  cases data with
  | null => exact .pure (.other trivial hother)
  | _ => exact .map (.any _) fun a _ => .other (hw a) hother

section Loader

variable {source : Source}

mutual

theorem node_built (hs : source.emptySlot = none) : ∀ (data : Data) (expected : NodeFamily),
    Yields (Built expected) (node source expected data)
  | .null, expected | .bool _, expected | .int _, expected | .real _, expected
  | .text _, expected | .list _, expected => scalar_built expected _
  | .dict entries, expected => by
    rw [node]
    refine .bind (nodeClass_fits expected entries) fun c hc => .bind (.any _) fun id _ => ?_
    refine .bind (fieldsOf_fit hs c entries) fun fields hf => .bind (.any _) fun span _ => ?_
    split
    · next hm =>
      refine .pure ⟨assemble_intact hs span id hf hm, fun he => ?_⟩
      refine assemble_expression source span id fields ?_
      subst he
      simpa [NodeClass.fits] using hc
    · exact .refuse _

theorem fieldsOf_fit (hs : source.emptySlot = none) (c : NodeClass) :
    ∀ entries : List (String × Data), Yields (Fields.Fit c) (fieldsOf source c entries)
  | [] => by
    rw [fieldsOf]
    exact .pure .nil
  | (key, raw) :: rest => by
    rw [fieldsOf]
    split
    · exact fieldsOf_fit hs c rest
    have after (m : Load FieldValue) (hm : Yields (Content ((c.field? key).map NodeField.type)) m) :
        Yields (Fields.Fit c) (do
          let value ← m
          let others ← fieldsOf source c rest
          pure ((key, value) :: others)) :=
      hm.bind fun value hv => (fieldsOf_fit hs c rest).bind fun others ho => .pure (.cons hv ho)
    dsimp only
    generalize (c.field? key).map NodeField.type = found at after ⊢
    cases found with
    | none => exact after _ (.refuse _)
    | some type =>
      cases type with
      | expression =>
        refine after _ (.map (node_built hs raw .expression) fun n hn => ⟨hn.1, fun _ => ?_⟩)
        obtain ⟨e, rfl⟩ := hn.2 rfl
        exact ⟨e, rfl⟩
      | optionalExpression =>
        dsimp only
        split
        · exact after _ (.pure (.other trivial nofun))
        · exact after _ (.map (node_built hs raw .expression) fun n hn => .other hn.1 nofun)
      | expressions => exact after _ (.map (nodeList_intact hs _ _ raw) fun _ h => .other h nofun)
      | commands => exact after _ (.map (nodeList_intact hs _ _ raw) fun _ h => .other h nofun)
      | branches => exact after _ (.map (nodeList_intact hs _ _ raw) fun _ h => .other h nofun)
      | blocks => exact after _ (.map (nodeList_intact hs _ _ raw) fun _ h => .other h nofun)
      | expressionRows => exact after _ (.map (rowList_intact hs _ raw) fun _ h => .other h nofun)
      | optionalSubtype =>
        exact after _
          (optional_content .optionalSubtype nofun FieldValue.subtype (fun _ => trivial) raw)
      | optionalText =>
        exact after _ (optional_content .optionalText nofun FieldValue.text (fun _ => trivial) raw)
      | span =>
        exact after _ (optional_content .span nofun FieldValue.span (fun _ => trivial) raw)
      | _ => exact after _ (.map (.any _) fun _ _ => .other trivial nofun)

theorem nodeList_intact (hs : source.emptySlot = none) (expected : NodeFamily) (place : String) :
    ∀ data : Data, Yields (fun ns => ∀ n ∈ ns, n.IsIntact) (nodeList source expected place data)
  | .null => .pure fun _ h => absurd h List.not_mem_nil
  | .list items => nodes_intact hs expected items
  | .bool _ | .int _ | .real _ | .text _ | .dict _ => .refuse _

theorem nodes_intact (hs : source.emptySlot = none) (expected : NodeFamily) : ∀ items : List Data,
    Yields (fun ns => ∀ n ∈ ns, n.IsIntact) (nodes source expected items)
  | [] => .pure fun _ h => absurd h List.not_mem_nil
  | item :: rest => by
    rw [nodes]
    refine .bind (node_built hs item expected) fun n hn => .bind (nodes_intact hs expected rest) ?_
    exact fun ns hns => .pure (List.forall_mem_cons.2 ⟨hn.1, hns⟩)

theorem rowList_intact (hs : source.emptySlot = none) (place : String) : ∀ data : Data,
    Yields (fun rs => ∀ r ∈ rs, Intact r) (rowList source place data)
  | .null => .pure fun _ h => absurd h List.not_mem_nil
  | .list items => rows_intact hs place items
  | .bool _ | .int _ | .real _ | .text _ | .dict _ => .refuse _

theorem rows_intact (hs : source.emptySlot = none) (place : String) : ∀ items : List Data,
    Yields (fun rs => ∀ r ∈ rs, Intact r) (rows source place items)
  | [] => .pure fun _ h => absurd h List.not_mem_nil
  | item :: rest => by
    rw [rows]
    refine .bind (row_intact hs place item) fun r hr => .bind (rows_intact hs place rest) ?_
    exact fun rs hrs => .pure (List.forall_mem_cons.2 ⟨hr, hrs⟩)

theorem row_intact (hs : source.emptySlot = none) (place : String) : ∀ data : Data,
    Yields Intact (row source place data)
  | .null => .pure .nil
  | .list items => cells_intact hs items
  | .bool _ | .int _ | .real _ | .text _ | .dict _ => .refuse _

theorem cells_intact (hs : source.emptySlot = none) :
    ∀ items : List Data, Yields Intact (cells source items)
  | [] => .pure .nil
  | item :: rest => by
    rw [cells]
    have after (m : Load Expr) (hm : Yields (fun e => e.isIntact = true) m) :
        Yields Intact (do
          let cell ← m
          let others ← cells source rest
          pure (cell :: others)) :=
      hm.bind fun e he => (cells_intact hs rest).bind fun es hes =>
        .pure (Intact.cons_iff.2 ⟨he, hes⟩)
    split
    · exact after _ (.pure rfl)
    · refine .bind (node_built hs item .expression) fun n hn => ?_
      obtain ⟨e, rfl⟩ := hn.2 rfl
      exact after _ (.pure (Expr.isIntact_of_isFilled (hn.1.filled e rfl)))

end

/-! ## Scripts -/

theorem blockCommands_intact (hs : source.emptySlot = none) (items : List Data) :
    Yields (fun cs => Intact (Command.allSlots cs)) (blockCommands source items) := by
  refine .bind (.mapM (fun item => node_built hs item .command) items) fun built hbuilt => ?_
  refine .pure (Intact.allSlots_iff.2 fun c hc => ?_)
  obtain ⟨n, hn, hnc⟩ := List.mem_filterMap.1 hc
  cases n <;> cases hnc
  exact (hbuilt _ hn).1.slots

theorem block_intact (hs : source.emptySlot = none) (data : Data) :
    Yields (fun b => Intact (Command.allSlots b.commands)) (block source data) := by
  unfold block
  split
  · exact .refuse _
  · refine .bind (.any _) fun kind _ => .bind (.any _) fun items _ => ?_
    exact .bind (blockCommands_intact hs items) fun commands hc => .pure hc

theorem scriptOf_intact (hs : source.emptySlot = none) (data : Data) :
    Yields (fun script => Intact script.slots) (scriptOf source data) := by
  unfold scriptOf
  split
  · exact .refuse _
  · refine .bind (.any _) fun items _ => .bind (.mapM (block_intact hs) items) fun blocks hb => ?_
    refine .pure fun e he => ?_
    obtain ⟨b, hmem, heb⟩ := List.mem_flatMap.1 he
    exact hb b hmem e heb

/-- A loaded script is intact. -/
theorem loadScript_intact (hs : source.emptySlot = none) {data : Data} {script : Script}
    (h : loadScript source data = .ok script) : Intact script.slots := by
  obtain ⟨n, hn⟩ := loadScript_eq_ok_iff.1 h
  exact scriptOf_intact hs data {} script n hn

end Loader

end Tree

end DialogScript
