import DialogScript.Proofs.Checking.Passes
import Mathlib.Data.List.Perm.Subperm

/-!
What a selection table stores. Each cell is read in the session of the command, by itself: as no
value, as a name that is not bound yet, or by the type of its column. A row is a map in which its
cells are put one after the other under the names of their columns, so under a name there is the
cell of the last column that has it.
-/

namespace DialogScript.Check

variable {α β : Type} {P : SymbolTable.Write → Prop} {p : Place} {s : Session} {u : SymbolTable}

/-- The bindings and the tolerance that a check evaluates against. -/
def scopeOf (p : Place) (s : Session) : Scope := ⟨s.table.lookup, p.host.epsilon⟩

/-- A value read off an expression; an empty slot has a reading of its own. -/
theorem reading_passes {m : Eval (Option α)} {d : α} {f : α → β} {b : β} (hm : m.WarnsOfPaths)
    (h : Passes (f <$> (do let found ← eval m; pure (found.getD d) : Check α)) p s b u) :
    ∃ found, (m (scopeOf p s)).result = .ok found ∧ b = f (found.getD d) := by
  have tame : Tame noWrite (do let found ← eval m; pure (found.getD d) : Check α) :=
    .bind (.eval hm) fun _ => .pure _
  obtain ⟨a, ha, rfl⟩ := map_ok (h.result (tame.map f))
  obtain ⟨found, hfound, rfl⟩ := map_ok (m := eval m) (f := fun found => found.getD d) ha
  exact ⟨found, hfound, rfl⟩

/-- A check whose first part makes no write and fails leaves what it has found, and no more. -/
theorem bind_failed {m : Check α} (hm : Tame noWrite m) (h : ∀ a, (m p s).1 ≠ .ok a)
    (f : α → Check β) : ∃ e ds, (m >>= f) p s = (.error e, s.after [] ds) := by
  obtain ⟨ws, hnone, hws⟩ := hm p s
  obtain ⟨-, ds, hs, -⟩ := hws s (.refl s)
  obtain rfl : ws = [] := List.eq_nil_iff_forall_not_mem.2 hnone
  cases hr : (m p s).1 with
  | ok a => exact absurd hr (h a)
  | error e => exact ⟨e, ds, (bind_of_error hr f).trans (by rw [hs])⟩

/-! ## Cells -/

/-- The forms in which a cell holds no value. -/
inductive Blank : Expr → Prop where
  | absent : Blank .absent
  | text (span : Option Span) : Blank (.literal span (.string ""))
  | word (span : Option Span) : Blank (.literal span (.string noValue))
  | name (span : Option Span) : Blank (.named span noValue)

theorem isEmptyCell_iff {cell : Expr} : isEmptyCell cell = true ↔ Blank cell := by
  constructor
  · intro h
    unfold isEmptyCell at h
    split at h
    · exact .absent
    · simp only [Bool.or_eq_true, decide_eq_true_eq] at h
      rcases h with rfl | rfl
      · exact .text _
      · exact .word _
    · simp only [decide_eq_true_eq] at h
      subst h
      exact .name _
    · cases h
  · intro h
    cases h with
    | absent => rfl
    | text span => rfl
    | word span => rfl
    | name span => rfl

/-- A cell that refers to a name before it is bound, in a column that allows it. -/
def Ahead (s : Session) (columnType : String) (cell : Expr) (name : String) : Prop :=
  ∃ span, cell = .named span name ∧ name ≠ noValue ∧ s.table.lookup name = none ∧
    columnType ∈ forwardTypes

theorem Ahead.not_blank {columnType name : String} {cell : Expr}
    (h : Ahead s columnType cell name) : ¬Blank cell := by
  obtain ⟨span, rfl, hname, -, -⟩ := h
  intro hblank
  cases hblank
  exact hname rfl

/-- What a cell of a column holds: nothing, a name that is not bound yet, or what its reading by the
type of the column gives. -/
inductive CellHolds (p : Place) (s : Session) (column : String × ValueType) (cell : Expr) :
    Option Value → Prop where
  | blank (h : Blank cell) : CellHolds p s column cell none
  | ahead {name : String} (h : Ahead s column.1 cell name) :
      CellHolds p s column cell (some (.string name))
  | integer {n : Option Int} (hfilled : ¬Blank cell) (hthere : ∀ name, ¬Ahead s column.1 cell name)
      (htype : column.2 = .integer) (h : (cell.evalInteger (scopeOf p s)).result = .ok n) :
      CellHolds p s column cell (some (.integer (n.getD 0)))
  | bool {n : Option Int} (hfilled : ¬Blank cell) (hthere : ∀ name, ¬Ahead s column.1 cell name)
      (htype : column.2 = .bool) (h : (cell.evalInteger (scopeOf p s)).result = .ok n) :
      CellHolds p s column cell (some (.bool (n.getD 0 != 0)))
  | double {x : Option Float} (hfilled : ¬Blank cell)
      (hthere : ∀ name, ¬Ahead s column.1 cell name) (htype : column.2 = .double)
      (h : (cell.evalDouble (scopeOf p s)).result = .ok x) :
      CellHolds p s column cell (some (.double (x.getD 0.0)))
  | text {found : Option String} (hfilled : ¬Blank cell)
      (hthere : ∀ name, ¬Ahead s column.1 cell name)
      (htype : column.2 = .string ∨ column.2 = .reference)
      (h : (cell.evalText (scopeOf p s)).result = .ok found) :
      CellHolds p s column cell (textValue (found.getD ""))

/-- The name that a filled cell refers to ahead is the one that its check finds. -/
theorem forwardName?_ok {columnType : String} {cell : Expr} {found : Option String}
    (hfilled : ¬Blank cell) (h : (forwardName? columnType cell p s).1 = .ok found) (name : String) :
    Ahead s columnType cell name ↔ found = some name := by
  unfold forwardName? at h
  split at h
  · rename_i span given
    have hname : given ≠ noValue := by
      rintro rfl
      exact hfilled (.name span)
    obtain ⟨bound, hbound, hfound⟩ := map_ok (p := p) (m := isBound given)
      (f := fun bound => if columnType ∈ forwardTypes && !bound then some given else none) h
    cases hbound
    rw [SymbolTable.contains_eq] at hfound
    subst hfound
    constructor
    · rintro ⟨_, heq, -, hfree, hcolumn⟩
      cases heq
      simp [hfree, hcolumn]
    · intro heq
      split at heq
      · rename_i hboth
        simp only [Bool.and_eq_true, decide_eq_true_eq, Bool.not_eq_true',
          Option.isSome_eq_false_iff, Option.isNone_iff_eq_none] at hboth
        cases heq
        exact ⟨span, rfl, hname, hboth.2, hboth.1⟩
      · cases heq
  · rename_i hother
    cases h
    constructor
    · rintro ⟨span, rfl, -⟩
      exact absurd rfl (hother span name)
    · exact nofun

/-- A cell whose check gives a value holds it. -/
theorem cellValue_holds {row column : Nat} {type : String × ValueType} {cell : Expr}
    {v : Option Value} (h : (cellValue row column type cell p s).1 = .ok v) :
    CellHolds p s type cell v := by
  unfold cellValue at h
  split at h
  · rename_i hempty
    cases h
    exact .blank (isEmptyCell_iff.1 hempty)
  rename_i hfilled
  replace hfilled : ¬Blank cell := fun hblank => hfilled (isEmptyCell_iff.2 hblank)
  have hpass : Passes (filledValue row column type cell) p s v _ := .of_run (Prod.ext h rfl)
  obtain ⟨forward, hforward, hpass⟩ := hpass.read (forwardName?_tame _ _)
  have hahead (name : String) : Ahead s type.1 cell name ↔ forward = some name :=
    forwardName?_ok hfilled hforward name
  cases forward with
  | some name =>
    obtain ⟨_, -, hpass⟩ := hpass.read (.remark _)
    rw [hpass.pure.1]
    exact .ahead ((hahead name).2 rfl)
  | none =>
    have hthere (name : String) : ¬Ahead s type.1 cell name := fun hname => by
      cases (hahead name).1 hname
    have hwarns := cell.reading_warnsOfPaths
    -- What is left is the reading by the type of the column.
    dsimp only at hpass
    split at hpass
    · obtain ⟨n, hn, rfl⟩ := reading_passes hwarns.integer hpass
      exact .integer hfilled hthere ‹_› hn
    · obtain ⟨n, hn, rfl⟩ := reading_passes hwarns.integer hpass
      exact .bool hfilled hthere ‹_› hn
    · obtain ⟨x, hx, rfl⟩ := reading_passes hwarns.double hpass
      exact .double hfilled hthere ‹_› hx
    · obtain ⟨text, htext, rfl⟩ := reading_passes hwarns.text hpass
      exact .text hfilled hthere (.inl ‹_›) htext
    · obtain ⟨text, htext, rfl⟩ := reading_passes hwarns.text hpass
      exact .text hfilled hthere (.inr ‹_›) htext
    · exact absurd hpass Passes.not_fail

/-! ## The types of cells -/

/-- The type under which values of a column are stored: a reference is stored by its name. -/
def storedType : ValueType → ValueType
  | .reference => .string
  | type => type

/-- The text of a cell stands for no value. -/
def ReadsBlank (scope : Scope) (cell : Expr) : Prop :=
  ∃ found, (cell.evalText scope).result = .ok found ∧
    (found.getD "" = "" ∨ found.getD "" = noValue)

/-- A cell can be evaluated to the type of its column. A reference is evaluated to its name. -/
def Readable (scope : Scope) (cell : Expr) : ValueType → Prop
  | .integer | .bool => ∃ n, (cell.evalInteger scope).result = .ok n
  | .double => ∃ x, (cell.evalDouble scope).result = .ok x
  | .string | .reference => ∃ found, (cell.evalText scope).result = .ok found
  | _ => False

/-- A cell as it is stored in a typed column. -/
structure TypedCell (p : Place) (s : Session) (column : String × ValueType) (cell : Expr)
    (v : Option Value) : Prop where
  ahead : ∀ name, Ahead s column.1 cell name → v = some (.string name)
  blank : (∀ name, ¬Ahead s column.1 cell name) →
    (v = none ↔ Blank cell ∨
      (column.2 = .string ∨ column.2 = .reference) ∧ ReadsBlank (scopeOf p s) cell)
  typed : (∀ name, ¬Ahead s column.1 cell name) → ∀ w, v = some w → w.type = storedType column.2

theorem textValue_eq_none_iff {text : String} :
    textValue text = none ↔ text = "" ∨ text = noValue := by
  unfold textValue
  split <;> simp [*]

theorem textValue_type {text : String} {w : Value} (h : textValue text = some w) :
    w.type = .string := by
  unfold textValue at h
  split at h
  · cases h
  · cases h
    rfl

/-- A cell that holds a value of another type than a text is there, and is not blank. -/
theorem TypedCell.of_value {column : String × ValueType} {cell : Expr} {w : Value}
    (hfilled : ¬Blank cell) (hthere : ∀ name, ¬Ahead s column.1 cell name)
    (htext : ¬(column.2 = .string ∨ column.2 = .reference)) (hw : w.type = column.2) :
    TypedCell p s column cell (some w) := by
  refine ⟨fun name h => absurd h (hthere name), fun _ => ⟨nofun, ?_⟩, ?_⟩
  · rintro (h | ⟨h, -⟩)
    · exact absurd h hfilled
    · exact absurd h htext
  · rintro _ _ ⟨⟩
    rw [hw]
    cases htype : column.2 with
    | reference => exact absurd (.inr htype) htext
    | _ => rfl

theorem CellHolds.typed {column : String × ValueType} {cell : Expr} {v : Option Value}
    (h : CellHolds p s column cell v) : TypedCell p s column cell v := by
  cases h with
  | blank h =>
    exact ⟨fun name hname => absurd h hname.not_blank, fun _ => ⟨fun _ => .inl h, fun _ => rfl⟩,
      fun _ w hw => by cases hw⟩
  | ahead h =>
    refine ⟨?_, fun hthere => absurd h (hthere _), fun hthere => absurd h (hthere _)⟩
    rintro name ⟨span, rfl, -⟩
    obtain ⟨_, heq, -⟩ := h
    cases heq
    rfl
  | integer hfilled hthere htype => exact .of_value hfilled hthere (by simp [htype]) htype.symm
  | bool hfilled hthere htype => exact .of_value hfilled hthere (by simp [htype]) htype.symm
  | double hfilled hthere htype => exact .of_value hfilled hthere (by simp [htype]) htype.symm
  | text hfilled hthere htype hread =>
    refine ⟨fun name hname => absurd hname (hthere name), fun _ => ?_, fun _ w hw => ?_⟩
    · rw [textValue_eq_none_iff]
      constructor
      · exact fun hblank => .inr ⟨htype, _, hread, hblank⟩
      · rintro (hblank | ⟨-, found, hfound, hblank⟩)
        · exact absurd hblank hfilled
        · -- The text of a cell is read once, so both readings are one.
          rw [hread] at hfound
          cases hfound
          exact hblank
    · rw [textValue_type hw]
      rcases htype with htype | htype <;> rw [htype] <;> rfl

/-- What a cell holds is its own, unless it is blank or refers ahead. -/
theorem CellHolds.readable {column : String × ValueType} {cell : Expr} {v : Option Value}
    (h : CellHolds p s column cell v) (hfilled : ¬Blank cell)
    (hthere : ∀ name, ¬Ahead s column.1 cell name) : Readable (scopeOf p s) cell column.2 := by
  cases h with
  | blank h => exact absurd h hfilled
  | ahead h => exact absurd h (hthere _)
  | integer _ _ htype h =>
    rw [htype]
    exact ⟨_, h⟩
  | bool _ _ htype h =>
    rw [htype]
    exact ⟨_, h⟩
  | double _ _ htype h =>
    rw [htype]
    exact ⟨_, h⟩
  | text _ _ htype h =>
    rcases htype with htype | htype <;> rw [htype]
    · exact ⟨_, h⟩
    · exact ⟨_, h⟩

/-! ## Columns -/

/-- The names of the columns of a table. -/
def columnNames (t : SelectionTable) : Check (List String) :=
  (selectionColumn :: ·) <$> columnKeys t.selStrings.tail

theorem columnTypes_length {place : Nat} {es : List Expr} {types : List (String × ValueType)}
    (h : Passes (columnTypes place es) p s types u) : types.length = es.length := by
  induction es generalizing place types u with
  | nil => exact congrArg List.length h.pure.1
  | cons e rest ih =>
    obtain ⟨name, -, h⟩ := h.read (text_tame e)
    obtain ⟨host, -, h⟩ := h.read .host
    split at h
    · exact absurd h Passes.not_fail
    · obtain ⟨others, hothers, h⟩ := h.read (columnTypes_tame _ rest)
      rw [h.pure.1, List.length_cons, List.length_cons, ih (.of_run (Prod.ext hothers rfl))]

/-- The types of columns are those that the host has for their names. -/
theorem columnType?_of_mem {place : Nat} {es : List Expr} {types : List (String × ValueType)}
    (h : Passes (columnTypes place es) p s types u) :
    ∀ type ∈ types, p.host.columnType? type.1 = some type.2 := by
  induction es generalizing place types u with
  | nil =>
    rw [h.pure.1]
    exact fun _ hmem => absurd hmem List.not_mem_nil
  | cons e rest ih =>
    obtain ⟨name, -, h⟩ := h.read (text_tame e)
    obtain ⟨host, hhost, h⟩ := h.read .host
    cases hhost
    split at h
    · exact absurd h Passes.not_fail
    · rename_i type htype
      obtain ⟨others, hothers, h⟩ := h.read (columnTypes_tame _ rest)
      rw [h.pure.1]
      exact List.forall_mem_cons.2 ⟨htype, ih (.of_run (Prod.ext hothers rfl))⟩

theorem columnKeys_length {es : List Expr} {keys : List String}
    (h : Passes (columnKeys es) p s keys u) : keys.length = es.length := by
  induction es generalizing keys u with
  | nil => exact congrArg List.length h.pure.1
  | cons e rest ih =>
    obtain ⟨key, -, h⟩ := h.read (columnKey_tame e)
    obtain ⟨others, hothers, h⟩ := h.read (columnKeys_tame rest)
    rw [h.pure.1, List.length_cons, List.length_cons, ih (.of_run (Prod.ext hothers rfl))]

/-! ## Rows -/

/-- A stored row: it has the names of the columns, each once, and under each of them the value of
the last cell of that name. -/
structure RowStored (p : Place) (s : Session) (names : List String)
    (types : List (String × ValueType)) (row : Nat) (cells : List Expr)
    (entries : List (String × Option Value)) : Prop where
  full : cells.length = names.length
  distinct : (Keyed.keys entries).Nodup
  named : ∀ name, name ∈ Keyed.keys entries ↔ name ∈ names
  cell : ∀ (column : Nat) (cell : Expr) (name : String) (type : String × ValueType),
    cells[column]? = some cell → names[column]? = some name → types[column]? = some type →
    ∃ v, (cellValue row column type cell p s).1 = .ok v ∧
      (name ∉ names.drop (column + 1) → entries.lookup name = some v)

/-- The cells of a row are put one after the other under the names of their columns. -/
theorem rowCells_passes {row column : Nat} {entries stored : List (String × Option Value)}
    {cells : List (Expr × String × String × ValueType)}
    (h : Passes (rowCells row column entries cells) p s stored u) :
    ∃ values : List (String × Option Value),
      Keyed.keys values = cells.map (fun c => c.2.1) ∧
      stored = values.foldl (fun l e => Keyed.put e.1 e.2 l) entries ∧
      ∀ i c, cells[i]? = some c → ∃ v, values[i]? = some (c.2.1, v) ∧
        (cellValue row (column + i) c.2.2 c.1 p s).1 = .ok v := by
  induction cells generalizing column entries u with
  | nil => exact ⟨[], rfl, h.pure.1, fun i c hc => by cases hc⟩
  | cons first rest ih =>
    obtain ⟨cell, key, type⟩ := first
    obtain ⟨v, hv, h⟩ := h.read (cellValue_tame _ _ _ _)
    obtain ⟨values, hkeys, hstored, hvalues⟩ := ih h
    refine ⟨(key, v) :: values, congrArg (key :: ·) hkeys, hstored, fun i c hc => ?_⟩
    cases i with
    | zero =>
      cases hc
      exact ⟨v, rfl, hv⟩
    | succ i =>
      obtain ⟨w, hw, hcell⟩ := hvalues i c hc
      refine ⟨w, hw, ?_⟩
      rwa [Nat.add_right_comm] at hcell

theorem rowStored_of_passes {names : List String} {types : List (String × ValueType)} {row : Nat}
    {cells : List Expr} {entries : List (String × Option Value)}
    (hcells : cells.length = names.length) (htypes : types.length = names.length)
    (h : Passes (rowCells row 0 [] (cells.zip (names.zip types))) p s entries u) :
    RowStored p s names types row cells entries := by
  obtain ⟨values, hkeys, rfl, hvalues⟩ := rowCells_passes h
  have hnames : Keyed.keys values = names := by
    rw [hkeys]
    have hmap : (cells.zip (names.zip types)).map (fun c => c.2.1) =
        ((cells.zip (names.zip types)).map Prod.snd).map Prod.fst := by
      rw [List.map_map]
      rfl
    rw [hmap, List.map_snd_zip, List.map_fst_zip]
    · exact Nat.le_of_eq htypes.symm
    · rw [List.length_zip, htypes, Nat.min_self]
      exact Nat.le_of_eq hcells.symm
  have hempty : (Keyed.keys ([] : List (String × Option Value))).Nodup := List.nodup_nil
  obtain ⟨hdistinct, hmem⟩ := Keyed.keys_foldl_put hempty values
  refine ⟨hcells, hdistinct, fun name => ?_, fun column cell name type hcell hname htype => ?_⟩
  · rw [hmem, hnames]
    exact ⟨fun h => h.elim (absurd · List.not_mem_nil) id, .inr⟩
  · have hzip : (cells.zip (names.zip types))[column]? = some (cell, name, type) := by
      simp only [List.getElem?_zip_eq_some]
      exact ⟨hcell, hname, htype⟩
    obtain ⟨v, hv, hvalue⟩ := hvalues column _ hzip
    rw [Nat.zero_add] at hvalue
    refine ⟨v, hvalue, fun hlast => ?_⟩
    rw [Keyed.lookup_foldl_put]
    refine Keyed.latest_of_last hv ?_ _
    rwa [Keyed.keys, List.map_drop, ← Keyed.keys, hnames]

/-- A row has an entry for each column exactly if its columns have different names. -/
theorem RowStored.length_eq_iff {names : List String} {types : List (String × ValueType)}
    {row : Nat} {cells : List Expr} {entries : List (String × Option Value)}
    (h : RowStored p s names types row cells entries) :
    entries.length = names.length ↔ names.Nodup := by
  have hlength : (Keyed.keys entries).length = entries.length := List.length_map ..
  rw [← hlength]
  constructor
  · intro heq
    have hsub : (Keyed.keys entries).Subperm names :=
      List.subperm_of_subset h.distinct fun name => (h.named name).1
    exact (hsub.perm_of_length_le (Nat.le_of_eq heq.symm)).nodup_iff.1 h.distinct
  · intro hnames
    exact ((List.perm_ext_iff_of_nodup h.distinct hnames).2 h.named).length_eq

/-- The rows of a table are stored as maps, one for each. -/
theorem tableRows_passes {table : String} {names : List String}
    {types : List (String × ValueType)} {place : Nat} {rows : List (List Expr)}
    {stored : List Value} (htypes : types.length = names.length)
    (h : Passes (tableRows table names types place rows) p s stored u) :
    ∃ maps : List (List (String × Option Value)),
      stored = maps.map Value.map ∧ maps.length = rows.length ∧
      ∀ r cells entries, rows[r]? = some cells → maps[r]? = some entries →
        RowStored p s names types (place + r) cells entries := by
  induction rows generalizing place stored u with
  | nil => exact ⟨[], h.pure.1, rfl, fun r cells entries hr => by cases hr⟩
  | cons cells rest ih =>
    rw [tableRows] at h
    split at h
    · exact absurd h Passes.not_fail
    rename_i hfull
    obtain ⟨entries, hentries, h⟩ := h.read (rowCells_tame _ _ _ _)
    obtain ⟨others, hothers, h⟩ := h.read (tableRows_tame _ _ _ _ _)
    obtain ⟨maps, rfl, hlength, hrows⟩ := ih (.of_run (Prod.ext hothers rfl))
    refine ⟨entries :: maps, h.pure.1, congrArg (· + 1) hlength, fun r row stored hr hm => ?_⟩
    cases r with
    | zero =>
      cases hr
      cases hm
      exact rowStored_of_passes (Decidable.not_not.1 hfull) htypes
        (.of_run (Prod.ext hentries rfl))
    | succ r =>
      have hrow := hrows r row stored hr hm
      rwa [Nat.add_assoc, Nat.add_comm 1] at hrow

/-! ## Tables -/

/-- A table as a map: the names of its columns, and its rows. -/
structure TableStored (p : Place) (s : Session) (t : SelectionTable) (names : List String)
    (types : List (String × ValueType)) (maps : List (List (String × Option Value)))
    (entries : List (String × Option Value)) : Prop where
  named : (columnNames t p s).1 = .ok names
  typed : (columnTypes 0 t.dataTypes p s).1 = .ok types
  width : names.length = t.columnCount ∧ types.length = t.columnCount
  columns : entries.lookup "columns" = some (some (Value.strings names))
  rows : entries.lookup "rows" = some (some (.array (maps.map Value.map)))
  count : maps.length = t.rows.length
  row : ∀ (r : Nat) (cells : List Expr) (stored : List (String × Option Value)),
    t.rows[r]? = some cells → maps[r]? = some stored → RowStored p s names types r cells stored

theorem tableValue_stored {t : SelectionTable} {v : Value} (h : (tableValue t p s).1 = .ok v) :
    ∃ names types maps entries, v = .map entries ∧
      TableStored p s t names types maps entries := by
  have hpass : Passes (tableValue t) p s v _ := .of_run (Prod.ext h rfl)
  unfold tableValue at hpass
  dsimp only at hpass
  split at hpass
  · exact absurd hpass Passes.not_fail
  rename_i hcount
  obtain ⟨types, htypes, hpass⟩ := hpass.read (columnTypes_tame _ _)
  obtain ⟨options, -, hpass⟩ := hpass.read (texts_tame _)
  split at hpass
  · exact absurd hpass Passes.not_fail
  rename_i hnonempty
  obtain ⟨named, hnamed, hpass⟩ := hpass.read (columnKeys_tame _)
  obtain ⟨rows, hrows, hpass⟩ := hpass.read (tableRows_tame _ _ _ _ _)
  obtain ⟨name, -, hpass⟩ := hpass.read (optionalEntry_tame _ _ fun e =>
    .bind (text_tame e) fun _ => .pure _)
  have hlength : types.length = t.columnCount :=
    (columnTypes_length (.of_run (Prod.ext htypes rfl))).trans (Decidable.not_not.1 hcount)
  have hwidth : (selectionColumn :: named).length = t.columnCount := by
    rw [List.length_cons, columnKeys_length (.of_run (Prod.ext hnamed rfl)), List.length_tail]
    exact Nat.sub_add_cancel (Nat.pos_of_ne_zero hnonempty)
  obtain ⟨maps, rfl, hmaps, hrow⟩ :=
    tableRows_passes (hlength.trans hwidth.symm) (.of_run (Prod.ext hrows rfl))
  refine ⟨_, types, maps, _, hpass.pure.1, ?_, htypes, ⟨hwidth, hlength⟩, rfl, rfl, hmaps, ?_⟩
  · show ((do let named ← columnKeys t.selStrings.tail; pure (selectionColumn :: named) :
      Check (List String)) p s).1 = _
    rw [bind_of_ok hnamed]
    rfl
  · intro r cells stored hcells hstored
    rw [← Nat.zero_add r]
    exact hrow r cells stored hcells hstored

/-- The part of the check of a table that comes before it is bound. -/
def tableFound (t : SelectionTable) : Check Value := do
  requireIdentifier t.identifier "identifier"
  tableValue t

theorem tableFound_tame (t : SelectionTable) : Tame P (tableFound t) :=
  .bind (requireIdentifier_tame _ _) fun _ => tableValue_tame t

theorem selectionTable_eq_found (t : SelectionTable) :
    selectionTable t = tableFound t >>= bindTable t.identifier := by
  rw [selectionTable_eq, tableFound, bind_assoc]

end DialogScript.Check
