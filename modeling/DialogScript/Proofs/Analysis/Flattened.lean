import DialogScript.Proofs.Analysis.Aborted
import DialogScript.Proofs.Running.Configured
import DialogScript.Proofs.Table.Registry

/-!
What an analysis hands on of the names of its script. A declared name is an identifier, and most
option keys have a colon in them; but the fixed keys and the keys of the options of shown parameters
and checkboxes are identifiers too. A name that is one of them gives way to the entry of the
registry; every other name is handed on with its value.
-/

namespace DialogScript

variable {setting : Setting} {name : String}

/-! ## Option keys that are identifiers -/

theorem colon_not_mem_of_isIdentifier (h : isIdentifier name = true) : ':' ∉ name.toList := by
  intro hcolon
  unfold isIdentifier at h
  cases hname : name.toList with
  | nil =>
    rw [hname] at hcolon
    cases hcolon
  | cons c rest =>
    rw [hname] at h hcolon
    obtain ⟨hfirst, hrest⟩ := Bool.and_eq_true_iff.1 h
    rcases List.mem_cons.1 hcolon with rfl | hlater
    · cases hfirst
    · cases List.all_eq_true.1 hrest _ hlater

/-- The options of two kinds of command alone can be stored under an identifier. -/
theorem shown_or_checkbox_of_isIdentifier {kind : CommandKind} {type : ValueType}
    (hkind : kind.accepts type = true) (h : isIdentifier (optionKey kind name) = true) :
    kind = .showParam ∨ kind = .checkboxParam := by
  have hcolon := colon_not_mem_of_isIdentifier h
  rw [optionKey, String.toList_append, List.mem_append, not_or] at hcolon
  have hstem := hcolon.1
  cases kind with
  | showParam => exact .inl rfl
  | checkboxParam => exact .inr rfl
  | userInputParam | radioButtonParam | userSelect | userSelectOptional | userSelectMultiple
    | userSelectMultipleOptional => exact absurd (by decide) hstem
  | _ => cases hkind

/-! ## The trail of an analysis -/

namespace Pass

/-- The commands that a pass visits lead from the table that it finds to the one that it leaves. -/
theorem trail_through {p q : Pass} {es es' : List Entry} (ht : p.session.table.Reachable)
    (h : Course setting p es es' q) :
    Trail setting p.session.table (visits setting p es) q.session.table ∧
      q.session.table.Reachable := by
  induction h with
  | done p => exact ⟨.refl setting _, ht⟩
  | idle ha es =>
    rw [visits_of_aborted ha]
    exact ⟨.refl setting _, ht⟩
  | @step p u q e rest rest' c ha hcommand hrest ih =>
    obtain ⟨-, htable, -⟩ := command_settled ha hcommand
    have first := trail_command setting e.command ht
    have hreachable := (closed_command setting e.command ht).reachable
    rw [← htable] at first hreachable
    obtain ⟨others, hleft⟩ := ih hreachable
    rw [visits_cons rest ha hcommand]
    exact ⟨first.append others, hleft⟩

end Pass

theorem lookup_indexWatchers (t : SymbolTable) (name : String) :
    t.indexWatchers.lookup name = t.lookup name := by
  have hsame : t.indexWatchers.bindings = t.bindings :=
    (t.bindings_apply (w := .setSingleton .watcherIndex t.watcherIndex) rfl).1
  unfold SymbolTable.lookup SymbolTable.binding?
  rw [hsame]

theorem optionsOf_indexWatchers (t : SymbolTable) (kind : CommandKind) (name : String) :
    t.indexWatchers.optionsOf kind name = t.optionsOf kind name :=
  optionsOf_apply t (.setSingleton .watcherIndex t.watcherIndex) kind name

/-- What is known of the names and options that an analysis of a fresh table leaves. -/
structure Declared (t : SymbolTable) : Prop where
  reachable : t.Reachable
  identifier : ∀ name v, t.lookup name = some v → isIdentifier name = true
  accepts : ∀ kind name m, t.optionsOf kind name = some m → ∃ type, kind.accepts type = true

theorem Trail.declared {vs : List Visit} {u : SymbolTable} (h : Trail setting {} vs u)
    (hu : u.Reachable) : Declared u where
  reachable := hu
  identifier := fun name v hv => by
    have hfirst : FirstWins setting [] {} name := .free (fun _ hmem => nomatch hmem) rfl rfl
    cases hfirst.trail h with
    | free _ hnone =>
      rw [hnone] at hv
      cases hv
    | bound hgiven => exact hgiven.identifier
  accepts := fun kind name m hm => by
    rcases h.options hm with hstart | ⟨type, _, _, v, _, hv⟩
    · cases hstart
    · exact ⟨type, hv.accepts⟩

theorem Declared.indexWatchers {t : SymbolTable} (h : Declared t) : Declared t.indexWatchers where
  reachable := h.reachable.apply (.setSingleton .watcherIndex t.watcherIndex)
  identifier := fun name v hv => h.identifier name v (by rwa [lookup_indexWatchers] at hv)
  accepts := fun kind name m hm => h.accepts kind name m (by rwa [optionsOf_indexWatchers] at hm)

theorem Script.declared_analyzed {script : Script} {a : Analysis}
    (h : script.analyze setting {} = .ok a) : Declared a.table := by
  obtain ⟨p, hthrough, hpass⟩ := Script.analyze_through h
  have hcourse := Pass.course_of_through hthrough
  obtain ⟨htrail, hreachable⟩ :=
    Pass.trail_through (p := { session := { table := {} } }) .empty hcourse
  have hdeclared := htrail.declared hreachable
  unfold Analysis.table
  rw [hpass]
  unfold Pass.indexed
  split
  · exact hdeclared
  · exact hdeclared.indexWatchers

/-! ## Names that give way -/

/-- What the registry of a table has under a key that can be a name. -/
inductive SymbolTable.Covers (t : SymbolTable) : String → Value → Prop where
  | shown {name : String} {m : Value} (h : t.optionsOf .showParam name = some m) :
    Covers t ("SHOW_PARAM_OPTIONS_" ++ name) m
  | checkbox {name : String} {m : Value} (h : t.optionsOf .checkboxParam name = some m) :
    Covers t ("CHECKBOX_PARAM_OPTIONS_" ++ name) m
  | list {list : TrackedList} {items : List Value} (h : t.trackedList list = some items) :
    Covers t list.name (.array items)
  | singleton {which : Singleton} {v : Value} (h : t.singleton which = some v) :
    Covers t which.name v
  | records {kind : RecordKind} (h : t.records kind ≠ []) :
    Covers t kind.name (.map (t.recordEntries kind))

namespace SymbolTable

variable {t : SymbolTable} {key : String} {w : Value}

theorem Covers.mem_registry (h : t.Covers key w) : (key, w) ∈ t.registry := by
  cases h with
  | shown h => exact mem_registry_options h
  | checkbox h => exact mem_registry_options h
  | list h => exact mem_registry_tracked h
  | singleton h => exact mem_registry_singleton h
  | records h => exact mem_registry_records h

theorem covers_of_mem_registry (hd : t.Distinct)
    (haccepts : ∀ kind name m, t.optionsOf kind name = some m → ∃ type, kind.accepts type = true)
    (hid : isIdentifier key = true) (h : (key, w) ∈ t.registry) : t.Covers key w := by
  rcases List.mem_append.1 h with hoption | hfixed
  · obtain ⟨⟨⟨kind, name⟩, m⟩, hm, heq⟩ := List.mem_map.1 hoption
    cases heq
    have hset : t.optionsOf kind name = some m := Keyed.lookup_of_mem hd.options hm
    obtain ⟨type, hkind⟩ := haccepts kind name m hset
    rcases shown_or_checkbox_of_isIdentifier hkind hid with rfl | rfl
    · exact .shown hset
    · exact .checkbox hset
  · rcases List.mem_append.1 hfixed with hstores | hrecords
    · rcases List.mem_append.1 hstores with hlist | hsingle
      · obtain ⟨⟨list, items⟩, hmem, heq⟩ := List.mem_map.1 hlist
        cases heq
        exact .list (Keyed.lookup_of_mem hd.tracked hmem)
      · obtain ⟨⟨which, v⟩, hmem, heq⟩ := List.mem_map.1 hsingle
        cases heq
        exact .singleton (Keyed.lookup_of_mem hd.singletons hmem)
    · obtain ⟨kind, -, hentry⟩ := List.mem_filterMap.1 hrecords
      unfold recordsEntry? at hentry
      split at hentry
      · cases hentry
      · rename_i hsome
        cases hentry
        exact .records fun hnone => hsome (by rw [hnone]; rfl)

/-- A key under which the registry can cover a name is fixed or begins with one of two stems. -/
theorem Covers.shape (h : t.Covers key w) :
    key ∈ fixedKeys ∨ "SHOW_PARAM_OPTIONS_".toList <+: key.toList ∨
      "CHECKBOX_PARAM_OPTIONS_".toList <+: key.toList := by
  cases h with
  | shown _ => exact .inr (.inl (optionStem_begins .showParam _))
  | checkbox _ => exact .inr (.inr (optionStem_begins .checkboxParam _))
  | @list list _ _ => exact .inl list.name_mem_fixedKeys
  | @singleton which _ _ => exact .inl which.name_mem_fixedKeys
  | @records kind _ => exact .inl kind.name_mem_fixedKeys

end SymbolTable

/-- A name that an analysis leaves bound is handed on with its value, unless the registry has an
entry under the same key: that one is handed on in its place. So the names that give way are fixed
keys with an entry, and those of the options of a shown parameter or a checkbox. Nothing is handed
on at all only where a record has a number that cannot be written. -/
theorem Script.analyze_flatten {script : Script} {a : Analysis}
    (h : script.analyze setting {} = .ok a) {name : String} {v : Value}
    (hv : a.table.lookup name = some v) :
    (∀ b, a.table.flatten = .error b ↔ ¬a.table.Writable ∧ b = .longIntegerText) ∧
      ∀ flat, a.table.flatten = .ok flat →
        (∀ w, a.table.Covers name w → flat.lookup name = some w) ∧
          ((∀ w, ¬a.table.Covers name w) → flat.lookup name = some v) := by
  have hdeclared := Script.declared_analyzed h
  have hdistinct := hdeclared.reachable.distinct
  refine ⟨fun b => SymbolTable.flatten_error hdistinct, fun flat hflat => ?_⟩
  obtain rfl := SymbolTable.flatten_ok hdistinct hflat
  refine ⟨fun w hw => SymbolTable.lookup_flattened_of_mem hdistinct hw.mem_registry,
    fun hnone => ?_⟩
  rw [SymbolTable.lookup_flattened hdistinct]
  cases hr : a.table.registry.lookup name with
  | none => exact hv
  | some w =>
    exact absurd (SymbolTable.covers_of_mem_registry hdistinct hdeclared.accepts
      (hdeclared.identifier name v hv) (Keyed.mem_of_lookup hr)) (hnone w)

/-- A script that shows a parameter, and declares a variable under the key of its options. -/
def declaringOptions : Script :=
  { blocks := [{ kind := .gui, commands :=
      [.action {} (.declare
          { name := "SHOW_PARAM_OPTIONS_L", kind := .parameter, subtype := some .int }),
        shown "L" { tooltip := textSlot "t" }] }] }

theorem analyze_flatten_declaringOptions :
    ∃ a flat, declaringOptions.analyze {} {} = .ok a ∧ a.table.flatten = .ok flat ∧
      a.table.lookup "SHOW_PARAM_OPTIONS_L" = some (.integer 0) ∧
      flat.lookup "SHOW_PARAM_OPTIONS_L" = some (.map [("tooltip", some (.string "t"))]) ∧
      flat.lookup "L" = some (.integer 0) := by
  obtain ⟨a, h⟩ : ∃ a, declaringOptions.analyze {} {} = .ok a := ⟨_, rfl⟩
  obtain ⟨flat, hflat⟩ : ∃ flat, a.table.flatten = .ok flat := by
    cases h
    exact ⟨_, rfl⟩
  have hvariable : a.table.lookup "SHOW_PARAM_OPTIONS_L" = some (.integer 0) := by
    cases h
    rfl
  have hshown : a.table.lookup "L" = some (.integer 0) := by
    cases h
    rfl
  have hset : a.table.optionsOf .showParam "L" =
      some (.map [("tooltip", some (.string "t"))]) := by
    cases h
    rfl
  refine ⟨a, flat, h, hflat, hvariable,
    ((Script.analyze_flatten h hvariable).2 flat hflat).1 _ (.shown hset),
    ((Script.analyze_flatten h hshown).2 flat hflat).2 fun w hw => ?_⟩
  exact absurd hw.shape (by decide)

/-- The value of a declared name is not handed on. -/
theorem analyze_flatten_hiding :
    ∃ a flat, declaringOptions.analyze {} {} = .ok a ∧ a.table.flatten = .ok flat ∧
      ∃ v, a.table.lookup "SHOW_PARAM_OPTIONS_L" = some v ∧
        flat.lookup "SHOW_PARAM_OPTIONS_L" ≠ some v :=
  ⟨_, _, rfl, rfl, _, rfl, nofun⟩

end DialogScript
