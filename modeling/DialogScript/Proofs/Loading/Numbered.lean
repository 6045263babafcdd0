import DialogScript.Proofs.Loading.Numbers

/-!
How the loader numbers conditionals and assignments. Both classes are numbered as the data is read:
a node before the nodes in its fields, and these in the order in which the fields are written. A
number that the data gives is kept, and the counter goes on above all numbers so far.
-/

namespace DialogScript

namespace Data

mutual

/-- Whether no mapping in data has two entries under one key. -/
def keysDistinct : Data → Bool
  | dict entries => decide (Keyed.keys entries).Nodup && entriesDistinct entries
  | list items => itemsDistinct items
  | _ => true

/-- Whether the values of some entries have distinct keys. -/
def entriesDistinct : List (String × Data) → Bool
  | [] => true
  | (_, raw) :: rest => keysDistinct raw && entriesDistinct rest

/-- Whether some items have distinct keys. -/
def itemsDistinct : List Data → Bool
  | [] => true
  | item :: rest => keysDistinct item && itemsDistinct rest

end

end Data

namespace Tree

/-! ## Loadings that number nothing -/

/-- The loading leaves the counter of a class as it is. -/
def Still {α : Type} (c : NodeClass) (m : Load α) : Prop :=
  ∀ k a k', m k = .ok (a, k') → k'.get c = k.get c

namespace Still

variable {α β : Type} {c : NodeClass} {m : Load α} {f : α → Load β}

theorem pure (a : α) : Still c (Pure.pure a : Load α) := by
  intro k b k' h
  cases h
  rfl

theorem refuse (e : LoadError) : Still c (Tree.refuse e : Load α) := fun _ _ _ => nofun

theorem throw (e : LoadFailure) : Still c (MonadExcept.throw e : Load α) := fun _ _ _ => nofun

theorem bind (hm : Still c m) (hf : ∀ a, Still c (f a)) : Still c (m >>= f) := by
  intro k b k' h
  obtain ⟨a, n, ha, hb⟩ := bind_eq_ok_iff.1 h
  rw [hf a n b k' hb, hm k a n ha]

theorem map (g : α → β) (hm : Still c m) : Still c (g <$> m) := hm.bind fun a => pure (g a)

theorem mapM {f : α → Load β} (hf : ∀ a, Still c (f a)) (items : List α) :
    Still c (items.mapM f) := by
  induction items with
  | nil =>
    rw [List.mapM_nil]
    exact pure []
  | cons a rest ih =>
    rw [List.mapM_cons]
    exact (hf a).bind fun b => ih.bind fun bs => pure (b :: bs)

theorem orBreak : ∀ r : Except Breakdown α, Still c (Tree.orBreak r)
  | .ok a => pure a
  | .error b => throw (.broken b)

theorem optional {load : Data → Load α} {wrap : α → FieldValue} (h : ∀ data, Still c (load data)) :
    ∀ data, Still c (optional load wrap data)
  | .null => pure _
  | .bool _ | .int _ | .real _ | .text _ | .list _ | .dict _ => map wrap (h _)

end Still

section Scalars

variable (c : NodeClass) (place : String) (data : Data)

theorem choice_still {α : Type} (type : String) (all : List α) (names : α → List String) :
    Still c (choice type all names place data) := by
  unfold choice
  dsimp only
  split
  · exact .pure _
  · exact .refuse _

theorem text_still : Still c (text place data) := by
  cases data with
  | text s => exact .pure s
  | _ => exact .refuse _

theorem truth_still : Still c (truth place data) := by
  cases data with
  | bool b => exact .pure b
  | _ => exact .refuse _

theorem whole_still : Still c (whole place data) := by
  cases data with
  | int n => exact .pure _
  | bool b => exact .pure _
  | _ => exact .refuse _

theorem real_still : Still c (real place data) := by
  cases data with
  | real x => exact .pure x
  | int n => exact .orBreak _
  | _ => exact .refuse _

theorem texts_still : Still c (texts place data) := by
  cases data with
  | null => exact .pure []
  | list items => exact .mapM (text_still c place) items
  | _ => exact .refuse _

theorem nodeClass_still (expected : NodeFamily) (entries : List (String × Data)) :
    Still c (nodeClass expected entries) := by
  unfold nodeClass
  split
  · exact .refuse _
  · split
    · exact .refuse _
    · split
      · exact .pure _
      · exact .refuse _
  · exact .throw _
  · exact .throw _
  · exact .refuse _

theorem nodeSpan_still (source : Source) (entries : List (String × Data)) (fields : Fields) :
    Still c (nodeSpan source entries fields) := by
  unfold nodeSpan
  split
  · exact .bind (.orBreak _) fun line => .pure _
  · exact .pure _

theorem literal_still : Still c (literal data) := by
  cases data with
  | null | list _ | dict _ => exact .refuse _
  | _ => exact .pure _

end Scalars

/-! ## The loader -/

/-- What a loading builds has the numbers that the counter of a class gives it. -/
def Counts {α : Type} (c : NodeClass) (m : Load α) (l : α → List Numbered)
    (numbers : α → List Int) : Prop :=
  ∀ k a k', m k = .ok (a, k') → Numbered.Count (k.get c) (l a) (numbers a) (k'.get c)

theorem Still.counts {α : Type} {c : NodeClass} {m : Load α} {l : α → List Numbered}
    {numbers : α → List Int} (h : Still c m) (hm : Yields (fun a => l a = [] ∧ numbers a = []) m) :
    Counts c m l numbers := by
  intro k a k' ha
  obtain ⟨hl, hn⟩ := hm k a k' ha
  rw [hl, hn, h k a k' ha]
  exact .nil _

section Loader

variable {source : Source} {c : NodeClass}

theorem Counts.still {α : Type} {m : Load α} {l : α → List Numbered} {numbers : α → List Int}
    (h : Counts c m l numbers) (hl : Yields (fun a => l a = []) m) : Still c m := by
  intro k a k' ha
  have hcount := (h k a k' ha).follow
  rw [hl k a k' ha] at hcount
  exact hcount.last_eq

/-- The number of a node: the one in its field, or else the next one. -/
theorem number?_assemble (source : Source) (span : Option Span) (id : Int) (fields : Fields)
    (c' : NodeClass) {field : String} (hf : c.idField? = some field) :
    (assemble source span id fields c').number? c =
      if c' = c then some (fields.whole field id).toInt else none := by
  cases c <;> cases hf <;> cases c' <;> rfl

/-- The number of a mapping is the one that it gives, or else the next one. -/
theorem number_run {field : String} (hf : c.idField? = some field)
    {entries : List (String × Data)} {k k' : Numbering} {id : Int}
    (h : number c entries k = .ok (id, k')) :
    ((entries.lookup field).getD .null = .null ∧ id = k.get c ∨
      entries.lookup field = some (.int id)) ∧ k' = k.used c id := by
  unfold number at h
  rw [hf] at h
  simp only at h
  cases hl : entries.lookup field with
  | none =>
    rw [hl] at h
    cases h
    exact ⟨.inl ⟨rfl, rfl⟩, rfl⟩
  | some data =>
    rw [hl] at h
    cases data with
    | null =>
      cases h
      exact ⟨.inl ⟨rfl, rfl⟩, rfl⟩
    | int n =>
      cases h
      exact ⟨.inr rfl, rfl⟩
    | _ => cases h

theorem number_still {c' : NodeClass} (hc : c = .ifCommand ∨ c = .assignment) (hne : c' ≠ c)
    (entries : List (String × Data)) : Still c (number c' entries) := by
  cases hf : c'.idField? with
  | none =>
    unfold number
    rw [hf]
    exact .pure _
  | some field =>
    intro k id k' h
    obtain ⟨-, rfl⟩ := number_run hf h
    obtain rfl | rfl := hc <;> cases c' <;> cases hf <;> first | rfl | exact absurd rfl hne

/-- The number in the field of a node is the one that its mapping has got. -/
theorem whole_fields {field : String} (hf : c.idField? = some field)
    {entries : List (String × Data)} {k k₁ k₂ k' : Numbering} {id : Int} {fields : Fields}
    (hn : number c entries k = .ok (id, k₁)) (h : fieldsOf source c entries k₂ = .ok (fields, k')) :
    (fields.whole field id).toInt = id := by
  have hr : reserved.contains field = false := by
    cases c <;> cases hf <;> rfl
  have htype : fieldType? c field = some .whole := by
    cases c <;> cases hf <;> rfl
  have hlookup := lookup_fieldsOf hr h
  unfold Fields.whole
  cases hl : entries.lookup field with
  | none =>
    rw [hl] at hlookup
    rw [hlookup]
    rfl
  | some raw =>
    rw [hl] at hlookup
    obtain ⟨value, n, n', hvalue, hfound⟩ := hlookup
    unfold fieldContent at hvalue
    rw [htype] at hvalue
    rw [hfound]
    rcases (number_run hf hn).1 with ⟨hnull, -⟩ | hint
    · -- a number that is null is taken for missing at first, but it is none for its field
      rw [hl] at hnull
      obtain rfl : raw = .null := hnull
      cases hvalue
    · rw [hl] at hint
      cases hint
      cases hvalue
      rfl

/-- A field that lists no nodes numbers none. -/
theorem unlisted_counts (raw : Data) {m : Load FieldValue} (h : Still c m) : Counts c m
    (fun value => numberedList c raw (listed none value))
    (fun value => (listed none value).flatMap (Node.numbers c)) := by
  refine h.counts fun _ value _ _ => ?_
  dsimp only
  rw [listed_none, numberedList_nil]
  exact ⟨rfl, rfl⟩

/-- A field with nodes of a family lists all of them. -/
theorem listed_counts (family : NodeFamily) (hf : family ≠ .any) {place : String} {raw : Data}
    (h : Counts c (nodeList source family place raw) (numberedList c raw)
      fun ns => ns.flatMap (Node.numbers c)) :
    Counts c (FieldValue.nodes <$> nodeList source family place raw)
      (fun value => numberedList c raw (listed (some family) value))
      (fun value => (listed (some family) value).flatMap (Node.numbers c)) := by
  intro k value k' hvalue
  obtain ⟨ns, n, hns, hvalue⟩ := bind_eq_ok_iff.1
    (show (nodeList source family place raw >>= pure ∘ FieldValue.nodes) k = _ from hvalue)
  cases hvalue
  dsimp only
  rw [listed_of_family (nodeList_family hf place raw k ns k' hns)]
  exact h k ns k' hns

/-- What the field of a node numbers is what it lists. -/
theorem fieldContent_counts (c' : NodeClass) (key : String) {raw : Data}
    (hnode : Still c (node source .expression raw))
    (hlist : ∀ expected place, Counts c (nodeList source expected place raw) (numberedList c raw)
      fun ns => ns.flatMap (Node.numbers c))
    (hrows : ∀ place, Still c (rowList source place raw)) :
    Counts c (fieldContent source c' key raw)
      (fun value => numberedList c raw (listed ((fieldType? c' key).bind listedFamily?) value))
      (fun value =>
        (listed ((fieldType? c' key).bind listedFamily?) value).flatMap (Node.numbers c)) := by
  have other {m : Load FieldValue} (h : Still c m) := unlisted_counts raw h
  unfold fieldContent
  dsimp only
  cases fieldType? c' key with
  | none => exact other (.refuse _)
  | some type =>
    cases type with
    | whole => exact other (.map _ (whole_still c _ raw))
    | real => exact other (.map _ (real_still c _ raw))
    | text => exact other (.map _ (text_still c _ raw))
    | truth => exact other (.map _ (truth_still c _ raw))
    | operator => exact other (.map _ (choice_still c _ raw _ _ _))
    | subtype => exact other (.map _ (choice_still c _ raw _ _ _))
    | variableKind => exact other (.map _ (choice_still c _ raw _ _ _))
    | blockKind => exact other (.map _ (choice_still c _ raw _ _ _))
    | optionalSubtype => exact other (.optional (choice_still c _ · _ _ _) raw)
    | optionalText => exact other (.optional (text_still c _) raw)
    | texts => exact other (.map _ (texts_still c _ raw))
    | span => exact other (.optional .pure raw)
    | expression => exact other (.map _ hnode)
    | optionalExpression =>
      refine other ?_
      dsimp only
      split
      · exact .pure _
      · exact .map _ hnode
    | expressions =>
      have hne : NodeFamily.expression ≠ .any := nofun
      refine other (.map _ ((hlist .expression _).still fun k ns k' h => ?_))
      exact numberedList_exprs c raw (nodeList_family hne _ raw k ns k' h)
    | commands => exact listed_counts .command nofun (hlist .command _)
    | branches => exact listed_counts .branch nofun (hlist .branch _)
    | blocks => exact listed_counts .block nofun (hlist .block _)
    | expressionRows => exact other (.map _ (hrows _))

/-- A node is numbered before the nodes in its fields. -/
theorem node_own (hc : c = .ifCommand ∨ c = .assignment) {c' : NodeClass}
    {entries : List (String × Data)} {k k₁ k₂ k₃ : Numbering} {id : Int} {fields : Fields}
    (span : Option Span) (hn : number c' entries k = .ok (id, k₁))
    (h : fieldsOf source c' entries k₂ = .ok (fields, k₃)) :
    let own := (assemble source span id fields c').number? c
    Numbered.Count (k.get c) (own.map (Numbered.mk (givenNumber c entries))).toList own.toList
      (k₁.get c) := by
  intro own
  obtain ⟨field, hf⟩ : ∃ field, c.idField? = some field := by
    obtain rfl | rfl := hc <;> exact ⟨_, rfl⟩
  have hown : own = if c' = c then some (fields.whole field id).toInt else none :=
    number?_assemble source span id fields c' hf
  by_cases heq : c' = c
  · subst heq
    rw [hown, if_pos rfl, whole_fields hf hn h]
    obtain ⟨hid, rfl⟩ := number_run hf hn
    have hgot : (givenNumber c' entries).getD (k.get c') = id := by
      unfold givenNumber
      rw [hf]
      rcases hid with ⟨hnull, rfl⟩ | hint
      · cases hl : entries.lookup field with
        | none => simp [hl]
        | some raw =>
          rw [hl] at hnull
          obtain rfl : raw = .null := hnull
          simp [hl]
      · simp [hint]
    have hused : (k.used c' id).get c' = max (k.get c') id + 1 := by
      obtain rfl | rfl := hc <;> rfl
    rw [hused]
    refine ⟨?_, .refl _⟩
    subst hgot
    exact .cons _ (.nil _)
  · rw [hown, if_neg heq, number_still hc heq entries k id k₁ hn]
    exact .nil _

end Loader

section Walk

variable {source : Source} {c : NodeClass}

/-- A scalar holds no numbered node. -/
theorem scalar_counts (expected : NodeFamily) {data : Data} (hd : ∀ n, numbered c data n = []) :
    Counts c
      (if expected = .expression then Node.expr <$> literal data
        else refuse (.notANode expected data)) (numbered c data) (Node.numbers c) := by
  split
  · refine (Still.map _ (literal_still c data)).counts (.map (.any _) fun e _ => ?_)
    exact ⟨hd _, rfl⟩
  · exact (Still.refuse _).counts (.refuse _)

/-- Where an expression is expected, nothing is numbered. -/
theorem expression_still {data : Data}
    (h : Counts c (node source .expression data) (numbered c data) (Node.numbers c)) :
    Still c (node source .expression data) := by
  have hne : NodeFamily.expression ≠ .any := nofun
  refine h.still fun k n k' hn => ?_
  have hfamily := node_family hne data k n k' hn
  cases n <;> cases hfamily
  exact numbered_expr c data _

mutual

theorem node_counts (hc : c = .ifCommand ∨ c = .assignment) :
    ∀ (data : Data) (expected : NodeFamily), data.keysDistinct = true →
      Counts c (node source expected data) (numbered c data) (Node.numbers c)
  | .null, expected, _ | .bool _, expected, _ | .int _, expected, _ | .real _, expected, _
  | .text _, expected, _ | .list _, expected, _ => scalar_counts expected fun _ => rfl
  | .dict entries, expected, hd => by
    obtain ⟨hkeys, hvalues⟩ := Bool.and_eq_true_iff.1 hd
    intro k n k' h
    rw [node] at h
    obtain ⟨c', k₁, hclass, h⟩ := bind_eq_ok_iff.1 h
    obtain ⟨id, k₂, hnumber, h⟩ := bind_eq_ok_iff.1 h
    obtain ⟨fields, k₃, hfields, h⟩ := bind_eq_ok_iff.1 h
    obtain ⟨span, k₄, hspan, h⟩ := bind_eq_ok_iff.1 h
    have hcount := (node_own hc span hnumber hfields).append
      (fieldsOf_counts hc c' entries (of_decide_eq_true hkeys) hvalues k₂ fields k₃ hfields)
    rw [nodeClass_still c expected entries k c' k₁ hclass] at hcount
    cases hm : c'.missing (fields.map Prod.fst) with
    | cons name names =>
      rw [hm] at h
      cases h
    | nil =>
      rw [hm] at h
      cases h
      rw [nodeSpan_still c source entries fields k₃ span k' hspan, numbered, Node.numbers_eq,
        places_assemble, funext (under_assemble source span id fields c')]
      simp only [under_assemble]
      refine ⟨hcount.follow, hcount.all.trans (.append_left _ ?_)⟩
      refine flatMap_perm (of_decide_eq_true hkeys) (listedKeys_nodup c') ?_ ?_
      · intro key _ hkey
        rw [Fields.under_of_not_mem fields hkey, List.flatMap_nil]
      · intro key hkey hgiven
        rw [under_of_not_given hfields (not_reserved_of_listed hkey) hgiven, List.flatMap_nil]

theorem fieldsOf_counts (hc : c = .ifCommand ∨ c = .assignment) (c' : NodeClass) :
    ∀ entries : List (String × Data), (Keyed.keys entries).Nodup →
      Data.entriesDistinct entries = true → Counts c (fieldsOf source c' entries)
        (fun fields => numberedFields c (fields.under c') entries)
        (fun fields => (Keyed.keys entries).flatMap fun key =>
          (fields.under c' key).flatMap (Node.numbers c))
  | [], _, _ => by
    intro k fields k' h
    cases h
    exact .nil _
  | (key, raw) :: rest, hkeys, hd => by
    obtain ⟨hraw, hrest⟩ := Bool.and_eq_true_iff.1 hd
    obtain ⟨hkey, hkeys⟩ := List.nodup_cons.1 hkeys
    have others := fieldsOf_counts hc c' rest hkeys hrest
    have content := fieldContent_counts c' key
      (expression_still (node_counts hc raw .expression hraw))
      (fun expected place => nodeList_counts hc place raw expected hraw)
      (fun place => rowList_still hc place raw hraw)
    intro k fields k' h
    change Numbered.Count (k.get c)
      (numberedList c raw (fields.under c' key) ++ numberedFields c (fields.under c') rest)
      ((fields.under c' key).flatMap (Node.numbers c) ++
        (Keyed.keys rest).flatMap fun key => (fields.under c' key).flatMap (Node.numbers c))
      (k'.get c)
    cases hr : reserved.contains key with
    | true =>
      rw [fieldsOf_reserved hr] at h
      have hnone : fields.under c' key = [] := by
        refine Fields.under_of_not_mem fields fun hmem => ?_
        rw [not_reserved_of_listed hmem] at hr
        cases hr
      rw [hnone, numberedList_nil]
      exact others k fields k' h
    | false =>
      rw [fieldsOf_cons hr] at h
      obtain ⟨value, k₁, hvalue, h⟩ := bind_eq_ok_iff.1 h
      obtain ⟨more, k₂, hmore, h⟩ := bind_eq_ok_iff.1 h
      cases h
      have hothers (name : String) (hname : name ∈ Keyed.keys rest) :
          Fields.under ((key, value) :: more) c' name = Fields.under more c' name := by
        refine Fields.under_cons_of_ne (fun heq => hkey ?_) value more
        rw [← heq]
        exact hname
      have hnumbers := List.flatMap_congr fun name hname =>
        congrArg (List.flatMap (Node.numbers c)) (hothers name hname)
      rw [Fields.under_cons_self, numberedFields_congr c hothers, hnumbers]
      exact (content k value k₁ hvalue).append (others k₁ more k' hmore)

theorem nodeList_counts (hc : c = .ifCommand ∨ c = .assignment) (place : String) :
    ∀ (data : Data) (expected : NodeFamily), data.keysDistinct = true →
      Counts c (nodeList source expected place data) (numberedList c data)
        fun ns => ns.flatMap (Node.numbers c)
  | .null, _, _ => (Still.pure _).counts (.pure ⟨rfl, rfl⟩)
  | .list items, expected, hd => nodes_counts hc items expected hd
  | .bool _, _, _ | .int _, _, _ | .real _, _, _ | .text _, _, _ | .dict _, _, _ =>
    (Still.refuse _).counts (.refuse _)

theorem nodes_counts (hc : c = .ifCommand ∨ c = .assignment) :
    ∀ (items : List Data) (expected : NodeFamily), Data.itemsDistinct items = true →
      Counts c (nodes source expected items) (numberedItems c items)
        fun ns => ns.flatMap (Node.numbers c)
  | [], _, _ => (Still.pure _).counts (.pure ⟨rfl, rfl⟩)
  | item :: rest, expected, hd => by
    obtain ⟨hitem, hrest⟩ := Bool.and_eq_true_iff.1 hd
    intro k ns k' h
    rw [nodes] at h
    obtain ⟨n, k₁, hn, h⟩ := bind_eq_ok_iff.1 h
    obtain ⟨others, k₂, hothers, h⟩ := bind_eq_ok_iff.1 h
    cases h
    exact (node_counts hc item expected hitem k n k₁ hn).append
      (nodes_counts hc rest expected hrest k₁ others k' hothers)

theorem rowList_still (hc : c = .ifCommand ∨ c = .assignment) (place : String) :
    ∀ data : Data, data.keysDistinct = true → Still c (rowList source place data)
  | .null, _ => .pure _
  | .list items, hd => rows_still hc place items hd
  | .bool _, _ | .int _, _ | .real _, _ | .text _, _ | .dict _, _ => .refuse _

theorem rows_still (hc : c = .ifCommand ∨ c = .assignment) (place : String) :
    ∀ items : List Data, Data.itemsDistinct items = true → Still c (rows source place items)
  | [], _ => .pure _
  | item :: rest, hd => by
    obtain ⟨hitem, hrest⟩ := Bool.and_eq_true_iff.1 hd
    rw [rows]
    refine .bind (row_still hc place item hitem) fun r => ?_
    exact .bind (rows_still hc place rest hrest) fun rs => .pure _

theorem row_still (hc : c = .ifCommand ∨ c = .assignment) (place : String) :
    ∀ data : Data, data.keysDistinct = true → Still c (row source place data)
  | .null, _ => .pure _
  | .list items, hd => cells_still hc items hd
  | .bool _, _ | .int _, _ | .real _, _ | .text _, _ | .dict _, _ => .refuse _

theorem cells_still (hc : c = .ifCommand ∨ c = .assignment) :
    ∀ items : List Data, Data.itemsDistinct items = true → Still c (cells source items)
  | [], _ => .pure _
  | item :: rest, hd => by
    obtain ⟨hitem, hrest⟩ := Bool.and_eq_true_iff.1 hd
    rw [cells]
    have after (cell : Expr) : Still c (do
        let others ← cells source rest
        pure (cell :: others)) := .bind (cells_still hc rest hrest) fun _ => .pure _
    split
    · exact after .absent
    · refine .bind (expression_still (node_counts hc item .expression hitem)) fun n => ?_
      cases n with
      | expr e => exact after e
      | _ => exact after .absent

end

/-! ## Scripts -/

theorem nodes_eq_mapM (expected : NodeFamily) (items : List Data) :
    nodes source expected items = items.mapM (node source expected) := by
  induction items with
  | nil => rfl
  | cons item rest ih => rw [nodes, List.mapM_cons, ih]

/-- Data that is no list has texts as its items. -/
theorem toItems_run {data : Data} {items : List Data} (h : data.toItems = .ok items) :
    data = .list items ∨ (∀ l, data ≠ .list l) ∧ ∀ item ∈ items, ∃ s, item = .text s := by
  cases data with
  | list l =>
    rw [toItems_list] at h
    cases h
    exact .inl rfl
  | _ =>
    refine .inr ⟨nofun, ?_⟩
    unfold Data.toItems at h
    split at h
    · cases h
      exact fun _ hitem => absurd hitem List.not_mem_nil
    · cases h
      try
        intro item hitem
        obtain ⟨x, -, rfl⟩ := List.mem_map.1 hitem
        exact ⟨_, rfl⟩

theorem orBreak_run {α : Type} {r : Except Breakdown α} {k k' : Numbering} {a : α}
    (h : orBreak r k = .ok (a, k')) : r = .ok a ∧ k' = k := by
  cases r with
  | error b => cases h
  | ok a' =>
    cases h
    exact ⟨rfl, rfl⟩

/-- Where texts are refused, only a list has items that can be loaded. -/
theorem items_run {α : Type} {f : Data → Load α} (hf : ∀ s, ∃ e, f (.text s) = refuse e)
    {data : Data} {key : String} {items : List Data} {k k₁ k' : Numbering} {built : List α}
    (hitems : orBreak ((data.get? key).getD .null).toItems k = .ok (items, k₁))
    (h : items.mapM f k₁ = .ok (built, k')) : items = itemsUnder key data ∧ k₁ = k := by
  obtain ⟨hread, rfl⟩ := orBreak_run hitems
  refine ⟨?_, rfl⟩
  unfold itemsUnder
  cases hg : data.get? key with
  | none =>
    rw [hg] at hread
    cases hread
    rfl
  | some raw =>
    rw [hg] at hread
    obtain hlist | ⟨hother, htexts⟩ := toItems_run hread
    · obtain rfl : raw = .list items := hlist
      rfl
    · cases items with
      | nil =>
        split
        · next heq => exact absurd (Option.some.inj heq) (hother _)
        · rfl
      | cons item rest =>
        obtain ⟨s, rfl⟩ := htexts item List.mem_cons_self
        obtain ⟨e, he⟩ := hf s
        rw [List.mapM_cons, he] at h
        cases h

theorem entriesDistinct_lookup {key : String} {raw : Data} {entries : List (String × Data)}
    (h : Data.entriesDistinct entries = true) (hl : entries.lookup key = some raw) :
    raw.keysDistinct = true := by
  induction entries with
  | nil => cases hl
  | cons entry rest ih =>
    obtain ⟨hentry, hrest⟩ := Bool.and_eq_true_iff.1 h
    rw [List.lookup_cons] at hl
    split at hl
    · cases hl
      exact hentry
    · exact ih hrest hl

theorem itemsDistinct_under {data : Data} (h : data.keysDistinct = true) (key : String) :
    Data.itemsDistinct (itemsUnder key data) = true := by
  unfold itemsUnder
  split
  · next items hg =>
    cases data with
    | dict entries => exact entriesDistinct_lookup (Bool.and_eq_true_iff.1 h).2 hg
    | _ => cases hg
  · rfl

theorem blockCommands_counts (hc : c = .ifCommand ∨ c = .assignment) {items : List Data}
    (hd : Data.itemsDistinct items = true) : Counts c (blockCommands source items)
      (fun cs => numberedItems c items (cs.map .command)) (Command.allNumbers c) := by
  intro k cs k' h
  obtain ⟨built, k₁, hbuilt, hcs⟩ := bind_eq_ok_iff.1 h
  rw [← nodes_eq_mapM] at hbuilt
  have hcommand : NodeFamily.command ≠ .any := nofun
  have hfamily := nodes_family hcommand items k built k₁ hbuilt
  have hwrapped : cs.map Node.command = built := by
    cases hcs
    exact (map_filterMap_family (fun n => by cases n <;> rfl) built).trans
      (listed_of_family hfamily)
  obtain rfl : k₁ = k' := by
    cases hcs
    rfl
  subst hwrapped
  dsimp only
  rw [← Node.numbers_commands]
  exact nodes_counts hc items .command hd k _ k₁ hbuilt

theorem block_counts (hc : c = .ifCommand ∨ c = .assignment) {data : Data}
    (hd : data.keysDistinct = true) :
    Counts c (block source data) (numberedBlock c data)
      fun b => Command.allNumbers c b.commands := by
  intro k b k' h
  unfold block at h
  cases hk : data.get? "kind" with
  | none =>
    rw [hk] at h
    cases h
  | some kindData =>
    rw [hk] at h
    obtain ⟨kind, k₁, hkind, h⟩ := bind_eq_ok_iff.1 h
    obtain ⟨items, k₂, hitems, h⟩ := bind_eq_ok_iff.1 h
    obtain ⟨commands, k₃, hcommands, h⟩ := bind_eq_ok_iff.1 h
    obtain ⟨built, k₄, hbuilt, -⟩ := bind_eq_ok_iff.1 hcommands
    cases h
    obtain ⟨rfl, rfl⟩ := items_run (fun s => ⟨_, rfl⟩) hitems hbuilt
    rw [← choice_still c _ kindData _ _ _ k kind k₂ hkind]
    exact blockCommands_counts hc (itemsDistinct_under hd _) k₂ commands k' hcommands

theorem blocks_counts (hc : c = .ifCommand ∨ c = .assignment) : ∀ items : List Data,
    Data.itemsDistinct items = true → Counts c (items.mapM (block source))
      (fun bs => (items.zipWith (numberedBlock c) bs).flatten)
      fun bs => bs.flatMap fun b => Command.allNumbers c b.commands
  | [], _ => (Still.pure _).counts (.pure ⟨rfl, rfl⟩)
  | item :: rest, hd => by
    obtain ⟨hitem, hrest⟩ := Bool.and_eq_true_iff.1 hd
    intro k bs k' h
    rw [List.mapM_cons] at h
    obtain ⟨b, k₁, hb, h⟩ := bind_eq_ok_iff.1 h
    obtain ⟨others, k₂, hothers, h⟩ := bind_eq_ok_iff.1 h
    cases h
    exact (block_counts hc hitem k b k₁ hb).append
      (blocks_counts hc rest hrest k₁ others k' hothers)

theorem scriptOf_counts (hc : c = .ifCommand ∨ c = .assignment) {data : Data}
    (hd : data.keysDistinct = true) :
    Counts c (scriptOf source data) (numberedScript c data) (Script.numbers c) := by
  intro k script k' h
  unfold scriptOf at h
  cases hraw : data.get? "blocks" with
  | none =>
    rw [hraw] at h
    cases h
  | some raw =>
    rw [hraw] at h
    obtain ⟨items, k₁, hitems, h⟩ := bind_eq_ok_iff.1 h
    obtain ⟨blocks, k₂, hblocks, h⟩ := bind_eq_ok_iff.1 h
    cases h
    have hread : orBreak ((data.get? "blocks").getD .null).toItems k = .ok (items, k₁) := by
      rw [hraw]
      exact hitems
    obtain ⟨rfl, rfl⟩ := items_run (fun s => ⟨_, rfl⟩) hread hblocks
    exact blocks_counts hc _ (itemsDistinct_under hd _) k₁ blocks k' hblocks

end Walk

/-- In a loaded script the conditionals, and likewise the assignments, have the numbers that their
data gives. A number that is not given is positive and above all numbers of the class before it, in
the order of the data. So where none is given, the numbers are one, two and so on in that order, and
no two are the same. -/
theorem loadScript_numbered {c : NodeClass} (hc : c = .ifCommand ∨ c = .assignment)
    {source : Source} {data : Data} (hd : data.keysDistinct = true) {script : Script}
    (h : loadScript source data = .ok script) :
    let l := numberedScript c data script
    Numbered.InOrder l ∧ (l.map Numbered.got).Perm (script.numbers c) ∧
      ((∀ x ∈ l, x.given = none) →
        (l.map Numbered.got = (List.range l.length).map fun i : Nat => (1 : Int) + i) ∧
        (script.numbers c).Nodup) := by
  intro l
  obtain ⟨n, hn⟩ := loadScript_eq_ok_iff.1 h
  have hcount : Numbered.Count 1 l (script.numbers c) (n.get c) := by
    have hrun := scriptOf_counts hc hd {} script n hn
    obtain rfl | rfl := hc <;> exact hrun
  refine ⟨hcount.follow.inOrder, hcount.all, fun hnone => ?_⟩
  have hgot := hcount.follow.got_eq hnone
  refine ⟨hgot, hcount.all.nodup_iff.1 ?_⟩
  rw [hgot]
  refine List.Nodup.map (fun i j hij => ?_) List.nodup_range
  omega

/-- A script with a conditional that is given the number 5, and whose alternative is written before
its branches; one that is given 0 after them, and a last one. -/
def numberedData : Data :=
  let conditional (fields : List (String × Data)) : Data :=
    .dict (("node", .text "IfCommand") :: fields)
  .dict [("blocks", .list [.dict [("kind", .text "GUI"), ("commands", .list [
    conditional [("if_id", .int 5), ("else_commands", .list [conditional []]),
      ("branches", .list [.dict [("node", .text "IfBranch"), ("condition", .bool true),
        ("commands", .list [conditional []])]])],
    conditional [("if_id", .int 0)], conditional []])]])]

theorem loadScript_numbered_alternative : ∃ script,
    loadScript {} numberedData = .ok script ∧
    numberedScript .ifCommand numberedData script =
      [⟨some 5, 5⟩, ⟨none, 6⟩, ⟨none, 7⟩, ⟨some 0, 0⟩, ⟨none, 9⟩] ∧
    script.numbers .ifCommand = [5, 7, 6, 0, 9] ∧
    Numbered.InOrder (numberedScript .ifCommand numberedData script) := by
  refine ⟨_, rfl, rfl, rfl, ?_⟩
  exact (loadScript_numbered (.inl rfl) rfl rfl).1

end Tree

end DialogScript
