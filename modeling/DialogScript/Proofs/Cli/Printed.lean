import DialogScript.Cli.Report

/-!
What a check can print. A report breaks down on a place that is plain data, or in whose numbers
there are too many digits, and, where symbols are asked for, on a key or a value that cannot be
written. The exit code that it would have had is lost then.
-/

namespace DialogScript

/-! ## Computations that give something -/

/-- A computation gives something with a property. -/
def Yields {α : Type} (x : Except Breakdown α) (P : α → Prop) : Prop := ∃ a, x = .ok a ∧ P a

namespace Yields

variable {α β : Type} {x : Except Breakdown α} {f : α → Except Breakdown β} {P : α → Prop}
  {Q : β → Prop}

theorem ok_iff {a : α} : Yields (.ok a) P ↔ P a := by
  simp [Yields]

theorem not_error {b : Breakdown} : ¬Yields (.error b : Except Breakdown α) P := nofun

theorem bind_iff : Yields (x >>= f) Q ↔ Yields x fun a => Yields (f a) Q := by
  cases x with
  | error b => exact iff_of_false not_error not_error
  | ok a => exact (ok_iff (P := fun a => Yields (f a) Q)).symm

theorem map_iff {g : α → β} : Yields (g <$> x) Q ↔ Yields x fun a => Q (g a) := by
  cases x with
  | error b => exact iff_of_false not_error not_error
  | ok a => exact ok_iff.trans (ok_iff (P := fun a => Q (g a))).symm

theorem ite_iff {c : Prop} [Decidable c] {a : α} {b : Breakdown} :
    Yields (if c then .ok a else .error b) P ↔ c ∧ P a := by
  split
  · next h => exact ok_iff.trans (iff_and_self.2 fun _ => h)
  · next h => exact iff_of_false not_error fun hc => h hc.1

theorem congr {P' : α → Prop} (h : ∀ a, P a ↔ P' a) : Yields x P ↔ Yields x P' :=
  exists_congr fun a => and_congr_right fun _ => h a

/-- What does not depend on the result holds beside it. -/
theorem and_right {c : Prop} : Yields x (fun a => P a ∧ c) ↔ Yields x P ∧ c :=
  ⟨fun ⟨a, ha, hP, hc⟩ => ⟨⟨a, ha, hP⟩, hc⟩, fun ⟨⟨a, ha, hP⟩, hc⟩ => ⟨a, ha, hP, hc⟩⟩

theorem mapM_iff {xs : List α} :
    Yields (xs.mapM f) (fun ys => ∀ y ∈ ys, Q y) ↔ ∀ x ∈ xs, Yields (f x) Q := by
  induction xs with
  | nil =>
    have none (P : α → Prop) : ∀ x ∈ ([] : List α), P x := fun _ h => absurd h List.not_mem_nil
    exact iff_of_true (ok_iff.2 fun _ h => absurd h List.not_mem_nil) (none _)
  | cons x rest ih =>
    rw [List.mapM_cons, bind_iff, List.forall_mem_cons, ← ih]
    constructor
    · rintro ⟨y, hy, hrest⟩
      obtain ⟨ys, hys, hall⟩ := bind_iff.1 hrest
      obtain ⟨hQ, hothers⟩ := List.forall_mem_cons.1 (ok_iff.1 hall)
      exact ⟨⟨y, hy, hQ⟩, ys, hys, hothers⟩
    · rintro ⟨⟨y, hy, hQ⟩, ys, hys, hothers⟩
      exact ⟨y, hy, bind_iff.2 ⟨ys, hys, ok_iff.2 (List.forall_mem_cons.2 ⟨hQ, hothers⟩)⟩⟩

theorem mapM_true_iff {xs : List α} :
    Yields (xs.mapM f) (fun _ => True) ↔ ∀ x ∈ xs, Yields (f x) fun _ => True := by
  rw [← mapM_iff]
  exact congr fun ys => iff_of_true trivial fun _ _ => trivial

end Yields

/-! ## Places -/

/-- A place whose numbers can be written. -/
def Location.Writable (l : Location) : Prop :=
  Numeral.isWritable l.line = true ∧ Numeral.isWritable l.column = true

/-- A span that can be shown: a range with a start that can be written, and as data with an end that
can be too. -/
def Span.Shown (asData : Bool) : Span → Prop
  | .between start stop => start.Writable ∧ (asData = true → stop.Writable)
  | .unread _ => False

theorem Location.yields_text {l : Location} : Yields l.text (fun _ => True) ↔ l.Writable := by
  unfold Location.text Location.position Number.text
  rw [Yields.map_iff, Yields.bind_iff, Yields.ite_iff, Yields.bind_iff, Yields.ite_iff]
  exact and_congr_right fun _ =>
    (and_congr_right fun _ => Yields.ok_iff).trans (and_iff_left trivial)

/-! ## Data -/

namespace Data

theorem itemsWritable_iff {items : List Data} :
    itemsWritable items = true ↔ ∀ item ∈ items, item.isWritable = true := by
  induction items with
  | nil => exact iff_of_true rfl fun _ h => absurd h List.not_mem_nil
  | cons item rest ih => rw [itemsWritable, Bool.and_eq_true, List.forall_mem_cons, ih]

theorem entriesWritable_iff {entries : List (String × Data)} :
    entriesWritable entries = true ↔ ∀ e ∈ entries, e.2.isWritable = true := by
  induction entries with
  | nil => exact iff_of_true rfl fun _ h => absurd h List.not_mem_nil
  | cons e rest ih => rw [entriesWritable, Bool.and_eq_true, List.forall_mem_cons, ih]

theorem entriesWritable_append {entries more : List (String × Data)} :
    entriesWritable (entries ++ more) = true ↔
      entriesWritable entries = true ∧ entriesWritable more = true := by
  simp only [entriesWritable_iff, List.forall_mem_append]

end Data

/-! ## Diagnostics -/

namespace Diagnostic

variable {d : Diagnostic}

theorem yields_text :
    Yields d.text (fun _ => True) ↔ ∀ span, d.span = some span → span.Shown false := by
  unfold text
  cases hs : d.span with
  | none => exact iff_of_true (Yields.ok_iff.2 trivial) nofun
  | some span =>
    simp only [Option.some.injEq, forall_eq', Yields.map_iff]
    cases span with
    | between start stop => exact Location.yields_text.trans (and_iff_left nofun).symm
    | unread data => exact iff_of_false Yields.not_error id

theorem isWritable_pointData {l : Location} :
    (pointData l).isWritable = true ↔ l.Writable := by
  simp [pointData, Data.isWritable, Data.entriesWritable, Location.Writable]

theorem entriesWritable_entries : Data.entriesWritable d.entries = true := by
  have hhints : Data.itemsWritable (d.hints.map Data.text) = true := by
    rw [Data.itemsWritable_iff, List.forall_mem_map]
    exact fun _ _ => rfl
  have hcommand : (Data.ofText? d.command).isWritable = true := by
    cases d.command <;> rfl
  simp [entries, Data.entriesWritable, Data.isWritable, hhints, hcommand]

theorem yields_toData :
    Yields d.toData (Data.isWritable · = true) ↔
      ∀ span, d.span = some span → span.Shown true := by
  unfold toData
  cases hs : d.span with
  | none => exact iff_of_true (Yields.ok_iff.2 entriesWritable_entries) nofun
  | some span =>
    simp only [Option.some.injEq, forall_eq', Yields.map_iff]
    cases span with
    | between start stop =>
      refine Yields.ok_iff.trans ?_
      simp [Data.isWritable, Data.entriesWritable_append, entriesWritable_entries,
        Data.entriesWritable, isWritable_pointData, Span.Shown]
    | unread data => exact iff_of_false Yields.not_error id

end Diagnostic

/-! ## Reports -/

namespace Cli.Checked

/-- The symbols can be shown: their keys and the integers in their values can be written. -/
def SymbolsShown (c : Checked) : Prop :=
  Yields c.analysis.table.flatten fun flat => ∀ e ∈ flat, e.2.toData.isWritable = true

/-- What it takes for the report of a check to be printed: the places of the diagnostics in it can
be shown, and so can the symbols where they are asked for. -/
structure Printable (c : Checked) (settings : Settings) : Prop where
  places : ∀ d ∈ c.shown (settings.json || settings.verbose),
    ∀ span, d.span = some span → span.Shown settings.json
  symbols : settings.symbols = true → c.SymbolsShown

variable {c : Checked} {settings : Settings}

theorem printable_iff :
    c.Printable settings ↔
      (∀ d ∈ c.shown (settings.json || settings.verbose),
        ∀ span, d.span = some span → span.Shown settings.json) ∧
      (settings.symbols = true → c.SymbolsShown) :=
  ⟨fun h => ⟨h.places, h.symbols⟩, fun h => ⟨h.1, h.2⟩⟩

theorem yields_symbols :
    Yields c.symbols (fun symbols => ∀ e ∈ symbols, e.2.toData.isWritable = true) ↔
      c.SymbolsShown := by
  unfold symbols SymbolsShown
  rw [Yields.map_iff]
  exact Yields.congr fun flat => by simp only [List.mem_mergeSort]

theorem yields_symbolLines : Yields c.symbolLines (fun _ => True) ↔ c.SymbolsShown := by
  rw [← yields_symbols]
  unfold symbolLines
  rw [Yields.bind_iff]
  refine Yields.congr fun symbols => ?_
  rw [Yields.bind_iff]
  refine (Yields.congr fun shown => Yields.ok_iff).trans (Yields.mapM_true_iff.trans ?_)
  exact forall₂_congr fun e _ => Yields.ite_iff.trans (and_iff_left trivial)

theorem yields_text :
    Yields (c.text settings) (fun _ => True) ↔
      (∀ d ∈ c.shown settings.verbose, ∀ span, d.span = some span → span.Shown false) ∧
        (settings.symbols = true → c.SymbolsShown) := by
  unfold text
  have hsymbols : Yields (if settings.symbols = true then c.symbolLines else .ok [])
      (fun _ => True) ↔ (settings.symbols = true → c.SymbolsShown) := by
    split
    · next h => rw [yields_symbolLines, forall_prop_of_true h]
    · next h => exact iff_of_true (Yields.ok_iff.2 trivial) fun hs => absurd hs h
  have hdiagnostics : Yields ((c.shown settings.verbose).mapM Diagnostic.text) (fun _ => True) ↔
      ∀ d ∈ c.shown settings.verbose, ∀ span, d.span = some span → span.Shown false :=
    Yields.mapM_true_iff.trans (forall₂_congr fun d _ => Diagnostic.yields_text)
  rw [Yields.bind_iff, ← hdiagnostics, ← hsymbols, ← Yields.and_right]
  refine Yields.congr fun texts => ?_
  rw [Yields.bind_iff]
  exact (Yields.congr fun more => Yields.ok_iff).trans (and_iff_right trivial).symm

/-- The data of a check without invalid commands can be written if its parts can. -/
theorem yields_toData (hc : c.analysis.pass.invalid = []) (withSymbols : Bool) :
    Yields (c.toData withSymbols) (Data.isWritable · = true) ↔
      (∀ d ∈ c.analysis.diagnostics, ∀ span, d.span = some span → span.Shown true) ∧
        (withSymbols = true → c.SymbolsShown) := by
  have hcount : Numeral.isWritable (c.invalidCount : Int) = true := by
    rw [invalidCount, hc]
    rfl
  have hdiagnostics : Yields (c.analysis.diagnostics.mapM Diagnostic.toData)
      (fun ds => ∀ d ∈ ds, d.isWritable = true) ↔
      ∀ d ∈ c.analysis.diagnostics, ∀ span, d.span = some span → span.Shown true :=
    Yields.mapM_iff.trans (forall₂_congr fun d _ => Diagnostic.yields_toData)
  have hsymbols : Yields (if withSymbols = true then c.symbolEntries else .ok [])
      (fun entries => Data.entriesWritable entries = true) ↔
      (withSymbols = true → c.SymbolsShown) := by
    split
    · next h =>
      rw [forall_prop_of_true h, ← yields_symbols, symbolEntries, Yields.map_iff]
      refine Yields.congr fun symbols => ?_
      simp only [Data.entriesWritable, Data.isWritable, Bool.and_true, Data.entriesWritable_iff,
        List.forall_mem_map]
    · next h => exact iff_of_true (Yields.ok_iff.2 rfl) fun hs => absurd hs h
  unfold toData
  rw [Yields.bind_iff, ← hdiagnostics, ← hsymbols, ← Yields.and_right]
  refine Yields.congr fun ds => ?_
  rw [Yields.bind_iff, and_comm, ← Yields.and_right]
  refine Yields.congr fun entries => Yields.ok_iff.trans ?_
  rw [Data.isWritable, Data.entriesWritable_append, ← Data.itemsWritable_iff, and_comm]
  simp [Data.entriesWritable, Data.isWritable, hcount]

/-- A check that has passed every command is reported if its report can be printed. -/
theorem yields_report (hc : c.analysis.pass.invalid = []) :
    Yields (c.report settings) (fun _ => True) ↔ c.Printable settings := by
  -- As JSON all diagnostics are printed, as text the notes only if they are asked for.
  unfold report
  rw [printable_iff, Yields.bind_iff]
  refine (Yields.congr fun output => Yields.ok_iff).trans ?_
  cases hj : settings.json with
  | false => rw [if_neg Bool.false_ne_true, yields_text, Bool.false_or]
  | true =>
    have hall : c.shown true = c.analysis.diagnostics := by simp [shown]
    rw [if_pos rfl, Bool.true_or, hall, ← yields_toData hc, json, Yields.bind_iff]
    exact Yields.congr fun data => Yields.ite_iff.trans (and_iff_left trivial)

theorem exitCode_eq_zero :
    c.exitCode = 0 ↔ c.analysis.pass.aborted = false ∧ c.analysis.pass.invalid = [] := by
  unfold exitCode completed
  cases c.analysis.pass.aborted <;> cases c.analysis.pass.invalid <;> simp

theorem exit_report {report : Report} (h : c.report settings = .ok report) :
    report.exit = c.exitCode := by
  obtain ⟨output, -, hreport⟩ := except_bind_ok h
  cases hreport
  rfl

/-- The verdict of a check reaches its exit code only if the report can be printed. -/
theorem exitCode_report :
    Cli.exitCode (c.report settings) = 0 ↔
      c.analysis.pass.aborted = false ∧ c.analysis.pass.invalid = [] ∧ c.Printable settings := by
  rw [← and_assoc, ← exitCode_eq_zero]
  constructor
  · intro h
    -- A report that breaks down exits with one.
    cases hr : c.report settings with
    | error b =>
      rw [hr] at h
      cases h
    | ok report =>
      rw [hr] at h
      have hverdict : c.exitCode = 0 := (exit_report hr).symm.trans h
      exact ⟨hverdict, (yields_report (exitCode_eq_zero.1 hverdict).2).1 ⟨report, hr, trivial⟩⟩
  · rintro ⟨hverdict, hprintable⟩
    obtain ⟨report, hr, -⟩ := (yields_report (exitCode_eq_zero.1 hverdict).2).2 hprintable
    rw [hr]
    exact (exit_report hr).trans hverdict

end Cli.Checked

namespace Cli

variable {w : World} {file : String} {settings : Settings}

theorem exitCode_troubleReport (t : Trouble) : exitCode (troubleReport t) = 1 := by
  unfold troubleReport
  cases t.message? <;> rfl

/-- A check that has no analysis to report exits with one, and any other with its report. -/
theorem exitCode_check :
    exitCode (run w (.check file settings)) = 0 ↔
      ∃ c, checkScript w file settings = .ok c ∧ exitCode (c.report settings) = 0 := by
  simp only [run]
  cases checkScript w file settings with
  | ok c => simp only [Except.ok.injEq, exists_eq_left']
  | error t =>
    rw [exitCode_troubleReport]
    refine iff_of_false (by decide) ?_
    rintro ⟨c, hc, -⟩
    cases hc

end Cli

end DialogScript
