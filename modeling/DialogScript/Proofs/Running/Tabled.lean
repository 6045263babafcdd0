import DialogScript.Proofs.Checking.Cells
import DialogScript.Proofs.Running.Trail

/-!
Running a selection table. A table that passes is bound under its identifier, with its rows as maps
from the names of its columns; a table with a cell that cannot be read, or with a row of another
length, binds nothing.
-/

namespace DialogScript

variable {setting : Setting} {status : Status} {t : SelectionTable} {s : Session}

/-- A table that passes is bound as a map of its rows. -/
theorem runAction_table_stored
    (h : (runAction setting status (.table t) s).ending = .ok true) :
    ∃ names types maps entries,
      (runAction setting status (.table t) s).session.table.lookup t.identifier =
        some (.map entries) ∧
      Check.TableStored ⟨.beginTable, setting.host⟩ s t names types maps entries := by
  obtain ⟨kind, u, hk, hpasses, hu⟩ := runAction_passed h
  cases hk
  obtain ⟨-, value, hvalue, hbound⟩ := Check.selectionTable_passes hpasses
  obtain ⟨names, types, maps, entries, rfl, stored⟩ := Check.tableValue_stored hvalue
  refine ⟨names, types, maps, entries, ?_, stored⟩
  have hsame : (runAction setting status (.table t) s).session.table.lookup t.identifier =
      u.lookup t.identifier := congrArg (fun table => table.lookup t.identifier) hu
  rw [hsame]
  unfold SymbolTable.lookup
  rcases hbound with ⟨hfree, rfl⟩ | ⟨-, rfl⟩
  · rw [SymbolTable.binding?_declare, if_pos rfl]
    have hnone : s.table.binding? t.identifier = none := by
      simpa [SymbolTable.lookup] using hfree
    rw [hnone]
    rfl
  · rw [SymbolTable.binding?_overwrite, if_pos rfl]
    cases s.table.binding? t.identifier <;> rfl

/-- A table that has no map does not pass, and leaves everything as it was. -/
theorem runAction_table_refused
    (h : ∀ v, (Check.tableValue t ⟨.beginTable, setting.host⟩ s).1 ≠ .ok v) :
    (runAction setting status (.table t) s).ending ≠ .ok true ∧
      ((setting.exhausted = some .beginTable → s.table.Reachable) →
        (runAction setting status (.table t) s).session.table = s.table) := by
  -- A command that has written nothing is left with an empty journal.
  have leave (ds : List Diagnostic) (b : Setback) :
      ((((s.entered .beginTable status.span).after [] ds).finish .beginTable
        (.action status (.table t)) (.error b)).ending ≠ .ok true) ∧
      (((s.entered .beginTable status.span).after [] ds).finish .beginTable
        (.action status (.table t)) (.error b)).session.table = s.table := by
    obtain ⟨hending, htable, -⟩ := Session.finish_of_setback
      ((s.entered .beginTable status.span).after [] ds) .beginTable (.action status (.table t)) b
    exact ⟨hending, htable⟩
  by_cases hx : setting.exhausted = some .beginTable
  · -- Whatever was written before memory ran out is taken back.
    have hrun : runAction setting status (.table t) s =
        s.runOut setting .beginTable (.action status (.table t)) := by
      simp only [runAction, Action.kind?, hx, if_true]
    have hended : (runAction setting status (.table t) s).ending ≠ .ok true := by
      rw [hrun]
      intro h
      cases h
    exact ⟨hended, fun hs => ((runAction_alone status (.table t)).atomic (hs hx) hended).1⟩
  · have halike : Session.Alike s (s.entered .beginTable status.span) := ⟨rfl, rfl, rfl⟩
    have hfailed (v : Value) : (Check.tableFound t ⟨.beginTable, setting.host⟩
        (s.entered .beginTable status.span)).1 ≠ .ok v := by
      intro hv
      obtain ⟨ws, -, hws⟩ := Check.tableFound_tame (P := Check.anyWrite) t
        ⟨.beginTable, setting.host⟩ s
      rw [(hws _ halike).1] at hv
      have hpass : Check.Passes (Check.tableFound t) _ s v _ := .of_run (Prod.ext hv rfl)
      obtain ⟨_, -, hpass⟩ := hpass.read (Check.requireIdentifier_tame _ _)
      exact h v (hpass.result (Check.tableValue_tame (P := Check.anyWrite) t))
    obtain ⟨e, ds, hcheck⟩ :=
      Check.bind_failed (Check.tableFound_tame t) hfailed (Check.bindTable t.identifier)
    rw [← Check.selectionTable_eq_found] at hcheck
    have hrun : runAction setting status (.table t) s =
        ((s.entered .beginTable status.span).after [] ds).finish .beginTable
          (.action status (.table t)) (.error (.ofFailure e)) := by
      simp only [runAction, Action.kind?, hx, if_false, Check.action, hcheck]
      rfl
    rw [hrun]
    exact (leave ds _).imp_right fun htable _ => htable

/-! ## Cells under the names of their columns -/

/-- In a table that passes, every row has the names of the columns, each once, and under each of
them the value of the last cell of that name. So it has an entry for each column, and each cell its
own, exactly if the names are different. -/
theorem runAction_table_rows (setting : Setting) (status : Status) (t : SelectionTable)
    (s : Session) (h : (runAction setting status (.table t) s).ending = .ok true) :
    ∃ (names : List String) (types : List (String × ValueType))
      (maps : List (List (String × Option Value))) (entries : List (String × Option Value)),
      (Check.columnNames t ⟨.beginTable, setting.host⟩ s).1 = .ok names ∧
      (Check.columnTypes 0 t.dataTypes ⟨.beginTable, setting.host⟩ s).1 = .ok types ∧
      names.length = t.columnCount ∧ types.length = t.columnCount ∧
      maps.length = t.rows.length ∧
      (runAction setting status (.table t) s).session.table.lookup t.identifier =
        some (.map entries) ∧
      entries.lookup "columns" = some (some (Value.strings names)) ∧
      entries.lookup "rows" = some (some (.array (maps.map Value.map))) ∧
      ∀ (r : Nat) (cells : List Expr) (row : List (String × Option Value)),
        t.rows[r]? = some cells → maps[r]? = some row →
        cells.length = t.columnCount ∧ (Keyed.keys row).Nodup ∧
        (∀ name, name ∈ Keyed.keys row ↔ name ∈ names) ∧
        (row.length = t.columnCount ↔ names.Nodup) ∧
        ∀ (c : Nat) (cell : Expr) (name : String) (type : String × ValueType),
          cells[c]? = some cell → names[c]? = some name → types[c]? = some type →
          ∃ v, Check.CellHolds ⟨.beginTable, setting.host⟩ s type cell v ∧
            (name ∉ names.drop (c + 1) → row.lookup name = some v) := by
  obtain ⟨names, types, maps, entries, hbound, stored⟩ := runAction_table_stored h
  refine ⟨names, types, maps, entries, stored.named, stored.typed, stored.width.1, stored.width.2,
    stored.count, hbound, stored.columns, stored.rows, fun r cells row hcells hrow => ?_⟩
  have hstored := stored.row r cells row hcells hrow
  refine ⟨hstored.full.trans stored.width.1, hstored.distinct, hstored.named, ?_, ?_⟩
  · rw [← stored.width.1]
    exact hstored.length_eq_iff
  · intro c cell name type hcell hname htype
    obtain ⟨v, hv, hlast⟩ := hstored.cell c cell name type hcell hname htype
    exact ⟨v, Check.cellValue_holds hv, hlast⟩

/-- A text of a tree. -/
def textCell (s : String) : Expr := .literal none (.string s)

/-- A number of a tree. -/
def numberCell (n : Int) : Expr := .literal none (.integer (.number n))

/-- A table of two columns, with a cell left empty. -/
def sizes : SelectionTable :=
  { identifier := "SIZES", selStrings := [textCell "Size", textCell "LEN"]
    dataTypes := [textCell "STRING", textCell "INTEGER"]
    rows := [[textCell "small", numberCell 1], [textCell "large", .absent]] }

theorem runAction_table_rows_sizes :
    (runAction {} {} (.table sizes) {}).ending = .ok true ∧
      ∃ maps : List (List (String × Option Value)), maps.length = 2 ∧
        ∀ (r : Nat) (cells : List Expr) (row : List (String × Option Value)),
          sizes.rows[r]? = some cells → maps[r]? = some row →
          cells.length = 2 ∧ row.length = 2 := by
  have hpassed : (runAction {} {} (.table sizes) {}).ending = .ok true := rfl
  obtain ⟨names, types, maps, entries, hnamed, -, -, -, hmaps, -, -, -, hrows⟩ :=
    runAction_table_rows {} {} sizes {} hpassed
  refine ⟨hpassed, maps, hmaps, fun r cells row hcells hrow => ?_⟩
  obtain ⟨hfull, -, -, hlength, -⟩ := hrows r cells row hcells hrow
  have hnames : names = ["SEL_STRING", "LEN"] := (Except.ok.inj hnamed).symm
  exact ⟨hfull, hlength.2 (by rw [hnames]; decide)⟩

/-- A table with two columns of one name. -/
def repeatedColumn : SelectionTable :=
  { identifier := "SIZES", selStrings := [textCell "Size", textCell "LEN", textCell "LEN"]
    dataTypes := [textCell "STRING", textCell "INTEGER", textCell "INTEGER"]
    rows := [[textCell "small", numberCell 1, numberCell 2]] }

/-- A table with two columns of one name passes, and the first of the two cells is nowhere in its
row. -/
theorem runAction_table_repeatedColumn :
    (runAction {} {} (.table repeatedColumn) {}).ending = .ok true ∧
      repeatedColumn.columnCount = 3 ∧
      ∃ entries row : List (String × Option Value),
        (runAction {} {} (.table repeatedColumn) {}).session.table.lookup "SIZES" =
          some (.map entries) ∧
        entries.lookup "columns" = some (some (Value.strings ["SEL_STRING", "LEN", "LEN"])) ∧
        entries.lookup "rows" = some (some (.array [.map row])) ∧
        row = [("SEL_STRING", some (.string "small")), ("LEN", some (.integer 2))] ∧
        row.length = 2 :=
  ⟨rfl, rfl, _, _, rfl, rfl, rfl, rfl, rfl⟩

/-! ## Cells by the types of their columns -/

/-- A row that a table cannot be bound with: it has another length, or a cell that cannot be
evaluated to the type of its column. -/
def RowFails (p : Place) (s : Session) (t : SelectionTable) (cells : List Expr) : Prop :=
  cells.length ≠ t.columnCount ∨
    ∃ (types : List (String × ValueType)) (c : Nat) (cell : Expr) (type : String × ValueType),
      (Check.columnTypes 0 t.dataTypes p s).1 = .ok types ∧ cells[c]? = some cell ∧
      types[c]? = some type ∧ ¬Check.Blank cell ∧
      (∀ name, ¬Check.Ahead s type.1 cell name) ∧
      ¬Check.Readable (Check.scopeOf p s) cell type.2

/-- A row of a table that has a map does not fail. -/
theorem Check.TableStored.row_holds {p : Place} {names : List String}
    {types : List (String × ValueType)} {maps : List (List (String × Option Value))}
    {entries : List (String × Option Value)} (h : TableStored p s t names types maps entries)
    {r : Nat} {cells : List Expr} (hcells : t.rows[r]? = some cells) : ¬RowFails p s t cells := by
  have hr : r < maps.length := by
    rw [h.count]
    exact (List.getElem?_eq_some_iff.1 hcells).1
  have hstored := h.row r cells maps[r] hcells (List.getElem?_eq_getElem hr)
  rintro (hlength | ⟨types', c, cell, type, htypes, hcell, htype, hfilled, hthere, hunreadable⟩)
  · exact hlength (hstored.full.trans h.width.1)
  · rw [h.typed] at htypes
    cases htypes
    have hc : c < names.length := by
      rw [← hstored.full]
      exact (List.getElem?_eq_some_iff.1 hcell).1
    obtain ⟨v, hv, -⟩ :=
      hstored.cell c cell names[c] type hcell (List.getElem?_eq_getElem hc) htype
    exact hunreadable ((cellValue_holds hv).readable hfilled hthere)

/-- A table whose columns have different names and that passes stores each cell under the name of
its column, by its type: as no value if it is blank, by its name if it refers ahead, and else as a
value of the type. A table with a row that fails does not pass, and everything in the symbol table
stays as it was; where memory may run out first, that needs a table that a run can come to. -/
theorem runAction_table_cells (setting : Setting) (status : Status) (t : SelectionTable)
    (s : Session) :
    (∀ names, (Check.columnNames t ⟨.beginTable, setting.host⟩ s).1 = .ok names → names.Nodup →
      (runAction setting status (.table t) s).ending = .ok true →
      ∃ (types : List (String × ValueType)) (maps : List (List (String × Option Value)))
        (entries : List (String × Option Value)),
        (Check.columnTypes 0 t.dataTypes ⟨.beginTable, setting.host⟩ s).1 = .ok types ∧
        names.length = t.columnCount ∧ types.length = t.columnCount ∧
        maps.length = t.rows.length ∧
        (runAction setting status (.table t) s).session.table.lookup t.identifier =
          some (.map entries) ∧
        entries.lookup "rows" = some (some (.array (maps.map Value.map))) ∧
        ∀ (r : Nat) (cells : List Expr) (row : List (String × Option Value)),
          t.rows[r]? = some cells → maps[r]? = some row →
          cells.length = t.columnCount ∧
          ∀ (c : Nat) (cell : Expr) (name : String) (type : String × ValueType),
            cells[c]? = some cell → names[c]? = some name → types[c]? = some type →
            setting.host.columnType? type.1 = some type.2 ∧
            ∃ v, row.lookup name = some v ∧
              Check.TypedCell ⟨.beginTable, setting.host⟩ s type cell v) ∧
    ∀ (r : Nat) (cells : List Expr), t.rows[r]? = some cells →
      RowFails ⟨.beginTable, setting.host⟩ s t cells →
      (runAction setting status (.table t) s).ending ≠ .ok true ∧
        ((setting.exhausted = some .beginTable → s.table.Reachable) →
          (runAction setting status (.table t) s).session.table = s.table) := by
  refine ⟨fun names hnames hdistinct h => ?_, fun r cells hcells hfails => ?_⟩
  · obtain ⟨names', types, maps, entries, hbound, stored⟩ := runAction_table_stored h
    obtain rfl : names' = names := Except.ok.inj (stored.named.symm.trans hnames)
    refine ⟨types, maps, entries, stored.typed, stored.width.1, stored.width.2, stored.count,
      hbound, stored.rows, fun r cells row hcells hrow => ?_⟩
    have hstored := stored.row r cells row hcells hrow
    refine ⟨hstored.full.trans stored.width.1, fun c cell name type hcell hname htype => ?_⟩
    have hknown := Check.columnType?_of_mem (.of_run (Prod.ext stored.typed rfl)) type
      (List.mem_of_getElem? htype)
    obtain ⟨v, hv, hlast⟩ := hstored.cell c cell name type hcell hname htype
    -- No later column has the name of this one.
    have hlater : name ∉ names'.drop (c + 1) := by
      obtain ⟨hc, rfl⟩ := List.getElem?_eq_some_iff.1 hname
      rw [← List.take_append_drop (c + 1) names', List.nodup_append] at hdistinct
      intro hmem
      refine hdistinct.2.2 _ (List.mem_take_iff_getElem.2 ⟨c, ?_, rfl⟩) _ hmem rfl
      omega
    exact ⟨hknown, v, hlast hlater, (Check.cellValue_holds hv).typed⟩
  · refine runAction_table_refused fun v hv => ?_
    obtain ⟨names, types, maps, entries, -, stored⟩ := Check.tableValue_stored hv
    exact stored.row_holds hcells hfails

/-- A table with a column of components, in which a name is not bound yet. -/
def parts : SelectionTable :=
  { identifier := "PARTS", selStrings := [textCell "Size", textCell "PART", textCell "LEN"]
    dataTypes := [textCell "STRING", textCell "SUBCOMP", textCell "INTEGER"]
    rows := [[textCell "small", .named none "BOLT", numberCell 1],
      [textCell "", .named none "NO_VALUE", .absent]] }

/-- The table with a length that is no number. -/
def wideParts : SelectionTable :=
  { parts with rows := [[textCell "small", .named none "BOLT", textCell "wide"]] }

theorem runAction_table_cells_parts :
    ((runAction {} {} (.table parts) {}).ending = .ok true ∧
      ∃ (maps : List (List (String × Option Value))) (entries row : List (String × Option Value)),
        (runAction {} {} (.table parts) {}).session.table.lookup "PARTS" = some (.map entries) ∧
        entries.lookup "rows" = some (some (.array (maps.map Value.map))) ∧
        maps[0]? = some row ∧ row.lookup "PART" = some (some (.string "BOLT"))) ∧
    (runAction {} {} (.table wideParts) {}).ending ≠ .ok true ∧
      (runAction {} {} (.table wideParts) {}).session.table = {} := by
  constructor
  · have hpassed : (runAction {} {} (.table parts) {}).ending = .ok true := rfl
    obtain ⟨types, maps, entries, htypes, -, -, hmaps, hbound, hentries, hrows⟩ :=
      (runAction_table_cells {} {} parts {}).1 ["SEL_STRING", "PART", "LEN"] rfl (by decide)
        hpassed
    have hfirst : 0 < maps.length := by
      rw [hmaps]
      decide
    have hrow : maps[0]? = some maps[0] := List.getElem?_eq_getElem hfirst
    obtain rfl : [("STRING", .string), ("SUBCOMP", .reference), ("INTEGER", .integer)] = types :=
      Except.ok.inj htypes
    obtain ⟨-, v, hv, typed⟩ :=
      (hrows 0 _ maps[0] rfl hrow).2 1 _ "PART" ("SUBCOMP", .reference) rfl rfl rfl
    have hahead : v = some (.string "BOLT") :=
      typed.ahead "BOLT" ⟨none, rfl, by decide, rfl, by decide⟩
    exact ⟨hpassed, maps, entries, maps[0], hbound, hentries, hrow, by rw [hv, hahead]⟩
  · refine ((runAction_table_cells {} {} wideParts {}).2 0 _ rfl (.inr ?_)).imp_right
      fun htable => htable nofun
    refine ⟨_, 2, textCell "wide", ("INTEGER", .integer), rfl, rfl, rfl, ?_, ?_, ?_⟩
    · exact fun h => absurd (Check.isEmptyCell_iff.2 h) (by decide)
    · rintro name ⟨span, heq, -⟩
      cases heq
    · rintro ⟨n, hn⟩
      cases hn

end DialogScript
