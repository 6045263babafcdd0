import DialogScript.Host.Config
import DialogScript.Proofs.Text.Casing
import Mathlib.Data.List.Nodup

/-!
The reference types of the host. A table of them is read with the names in upper case, and a type is
looked up in upper case and without the blanks around it. So a type is found by its name in any case
and with any blanks around it, unless the name has blanks at its own ends: then its entry is under a
key that no lookup has.
-/

namespace DialogScript.HostConfig

open DialogScript.Text

variable {data : Data} {config : HostConfig} {text name : String}

/-! ## Spellings -/

/-- A text spells a name: a part of it has the upper case of the name, and only blanks stand before
and after that part. -/
def Spells (text name : String) : Prop :=
  ∃ before core after, text = before ++ core ++ after ∧ (∀ c ∈ before.toList, isBlank c = true) ∧
    (∀ c ∈ after.toList, isBlank c = true) ∧ upper core = upper name

theorem Spells.refl (name : String) : Spells name name :=
  ⟨"", name, "", by simp, by simp, by simp, rfl⟩

theorem referenceKey_eq_trim (name : String) : referenceKey name = trim (upper name) :=
  upper_trim name

/-- Spellings of a name are looked up as the name itself. -/
theorem Spells.referenceKey_eq (h : Spells text name) : referenceKey text = referenceKey name := by
  obtain ⟨before, core, after, rfl, hbefore, hafter, hcore⟩ := h
  calc referenceKey (before ++ core ++ after) = referenceKey core := by
        rw [referenceKey, trim_surrounded hbefore hafter, referenceKey]
    _ = trim (upper core) := referenceKey_eq_trim core
    _ = trim (upper name) := by rw [hcore]
    _ = referenceKey name := (referenceKey_eq_trim name).symm

theorem spells_of_referenceKey (h : referenceKey text = upper name) : Spells text name := by
  obtain ⟨before, after, htext, hbefore, hafter⟩ := exists_trim text
  exact ⟨before, trim text, after, htext, hbefore, hafter, h⟩

/-- A name without blanks at its ends is in the form in which it is looked up, once it is in upper
case, and no other name is. -/
theorem referenceKey_eq_upper_iff :
    referenceKey text = upper name ↔ trim name = name ∧ Spells text name := by
  constructor
  · intro h
    -- What is looked up is trimmed, so a name can only meet it if there is nothing to trim.
    refine ⟨trim_upper_eq_iff.1 ?_, spells_of_referenceKey h⟩
    rw [← h, referenceKey_eq_trim, trim_trim]
  · rintro ⟨htrim, h⟩
    rw [h.referenceKey_eq, referenceKey, htrim]

/-! ## Reading the table -/

theorem orBreak_ok {α : Type} {r : Except Breakdown α} {a : α} (h : orBreak r = .ok a) :
    r = .ok a := by
  cases r with
  | ok b => cases h; rfl
  | error b => cases h

/-- A table that is read has its entries' codes put under their names in upper case. -/
theorem readReferences_ok {entries : List (String × Data)} {known table : List (String × Int)}
    (h : readReferences entries known = .ok table) :
    ∃ codes, Keyed.keys codes = entries.map (fun e => upper e.1) ∧
      (∀ e ∈ entries, ∃ code, e.2.toInteger = .ok code ∧ (upper e.1, code) ∈ codes) ∧
      table = codes.foldl (fun l c => Keyed.put c.1 c.2 l) known := by
  induction entries generalizing known with
  | nil =>
    cases h
    exact ⟨[], rfl, fun _ h => absurd h List.not_mem_nil, rfl⟩
  | cons e rest ih =>
    obtain ⟨code, hcode, h⟩ := except_bind_ok h
    obtain ⟨codes, hkeys, hcodes, rfl⟩ := ih h
    refine ⟨(upper e.1, code) :: codes, congrArg _ hkeys, ?_, rfl⟩
    rintro f (⟨⟩ | ⟨_, hf⟩)
    · exact ⟨code, orBreak_ok hcode, List.mem_cons_self⟩
    · obtain ⟨other, hother, hmem⟩ := hcodes f hf
      exact ⟨other, hother, List.mem_cons_of_mem _ hmem⟩

theorem ofData_ok (h : ofData data = .ok config) :
    ∃ entries, sectionEntries data "reference_types" = .ok entries ∧
      readReferences entries [] = .ok config.referenceTypes ∧
      ((data.get? "unknown_reference_type").getD (.int (-1))).toInteger =
        .ok config.unknownReference := by
  unfold ofData at h
  split at h
  · obtain ⟨entries, hentries, h⟩ := except_bind_ok h
    obtain ⟨references, hreferences, h⟩ := except_bind_ok h
    obtain ⟨_, -, h⟩ := except_bind_ok h
    obtain ⟨_, -, h⟩ := except_bind_ok h
    obtain ⟨_, -, h⟩ := except_bind_ok h
    obtain ⟨_, -, h⟩ := except_bind_ok h
    obtain ⟨unknown, hunknown, h⟩ := except_bind_ok h
    obtain ⟨_, -, h⟩ := except_bind_ok h
    obtain ⟨_, -, h⟩ := except_bind_ok h
    cases h
    exact ⟨entries, hentries, hreferences, orBreak_ok hunknown⟩
  · cases h

/-! ## Looking up -/

section
variable {entries : List (String × Data)} {e : String × Data}
  (hread : readReferences entries [] = .ok config.referenceTypes)
include hread

/-- A type is known by the spellings of the names that have no blanks at their ends. -/
theorem knowsReference_iff :
    config.knowsReference text = true ↔ ∃ e ∈ entries, trim e.1 = e.1 ∧ Spells text e.1 := by
  obtain ⟨codes, hkeys, -, htable⟩ := readReferences_ok hread
  -- A later entry under the same key replaces the code, but it does not remove the key.
  have empty : (Keyed.keys ([] : List (String × Int))).Nodup := List.nodup_nil
  rw [knowsReference, Keyed.lookup_isSome_iff, htable, (Keyed.keys_foldl_put empty codes).2, hkeys,
    List.mem_map]
  refine (or_iff_right List.not_mem_nil).trans (exists_congr fun e => and_congr_right fun _ => ?_)
  rw [eq_comm, referenceKey_eq_upper_iff]

/-- Of types whose names are looked up differently, one whose name has no blanks at its ends has the
code of its entry. -/
theorem referenceCode_of_spells (hnodup : (entries.map fun e => referenceKey e.1).Nodup)
    (he : e ∈ entries) (htrim : trim e.1 = e.1) (h : Spells text e.1) :
    e.2.toInteger = .ok (config.referenceCode text) := by
  obtain ⟨codes, hkeys, hcodes, htable⟩ := readReferences_ok hread
  obtain ⟨code, hcode, hmem⟩ := hcodes e he
  -- The table is keyed by names in upper case only; trimming those gives what the names are looked
  -- up by, so they differ as well.
  have apart : (Keyed.keys codes).Nodup := by
    have looked : (entries.map fun e => referenceKey e.1) =
        (entries.map fun e => upper e.1).map trim := by
      rw [List.map_map]
      exact List.map_congr_left fun e _ => referenceKey_eq_trim e.1
    rw [looked] at hnodup
    rw [hkeys]
    exact hnodup.of_map
  have found : config.referenceTypes.lookup (referenceKey text) = some code := by
    rw [htable, Keyed.lookup_foldl_put, Keyed.latest_of_nodup apart,
      referenceKey_eq_upper_iff.2 ⟨htrim, h⟩, Keyed.lookup_of_mem apart hmem]
    rfl
  rw [referenceCode, found, hcode]
  rfl

/-- Of types whose names are looked up differently, one whose name has blanks at its ends is not
found by any spelling of it. -/
theorem not_knowsReference_of_spells (hnodup : (entries.map fun e => referenceKey e.1).Nodup)
    (he : e ∈ entries) (htrim : ¬trim e.1 = e.1) (h : Spells text e.1) :
    config.knowsReference text = false := by
  rw [Bool.eq_false_iff, Ne, knowsReference_iff hread]
  rintro ⟨f, hf, hftrim, hspells⟩
  have hkey := h.referenceKey_eq.symm.trans hspells.referenceKey_eq
  rw [List.inj_on_of_nodup_map hnodup he hf hkey] at htrim
  exact htrim hftrim

end

theorem referenceCode_of_not_known (h : config.knowsReference text = false) :
    config.referenceCode text = config.unknownReference := by
  rw [knowsReference, Option.isSome_eq_false_iff, Option.isNone_iff_eq_none] at h
  rw [referenceCode, h]
  rfl

/-- In host tables that are read from data, the types that are known are the spellings of the names
in the data, but for names with blanks at their ends, and other texts have the code for unknown
types. If no two names are looked up alike, then the spellings of a name have the code of its
entry, or, if the name has blanks at its ends, none of them is known. -/
theorem ofData_references (h : ofData data = .ok config) :
    ∃ entries, sectionEntries data "reference_types" = .ok entries ∧
      ((data.get? "unknown_reference_type").getD (.int (-1))).toInteger =
        .ok config.unknownReference ∧
      (∀ text, config.knowsReference text = true ↔
        ∃ e ∈ entries, trim e.1 = e.1 ∧ Spells text e.1) ∧
      (∀ text, config.knowsReference text = false →
        config.referenceCode text = config.unknownReference) ∧
      ((entries.map fun e => referenceKey e.1).Nodup → ∀ e ∈ entries, ∀ text, Spells text e.1 →
        (trim e.1 = e.1 → e.2.toInteger = .ok (config.referenceCode text)) ∧
        (¬trim e.1 = e.1 → config.knowsReference text = false)) := by
  obtain ⟨entries, hentries, hread, hunknown⟩ := ofData_ok h
  refine ⟨entries, hentries, hunknown, fun text => knowsReference_iff hread,
    fun text => referenceCode_of_not_known, fun hnodup e he text hspells => ⟨?_, ?_⟩⟩
  · exact fun htrim => referenceCode_of_spells hread hnodup he htrim hspells
  · exact fun htrim => not_knowsReference_of_spells hread hnodup he htrim hspells

/-- The entries of two types, one of which has a blank at the front of its name. -/
def edgesAndFaces : List (String × Data) := [("Edge", .int 6), (" face", .int 100)]

/-- Host data with two types and a code for the others. -/
def typedData : Data :=
  .dict [("reference_types", .dict edgesAndFaces), ("unknown_reference_type", .int (-7))]

theorem ofData_references_edge : ∃ config, ofData typedData = .ok config ∧
    config.knowsReference "\tedGE " = true ∧ config.referenceCode "\tedGE " = 6 ∧
    config.knowsReference "volume" = false ∧ config.referenceCode "volume" = -7 := by
  obtain ⟨config, hread⟩ : ∃ config, ofData typedData = .ok config := ⟨_, rfl⟩
  obtain ⟨entries, hentries, hunknown, hknown, hothers, hcodes⟩ := ofData_references hread
  obtain rfl : edgesAndFaces = entries := Except.ok.inj hentries
  have hmem : ("Edge", .int 6) ∈ edgesAndFaces := List.mem_cons_self
  have hspells : Spells "\tedGE " "Edge" := spells_of_referenceKey (by decide)
  have hcode := (hcodes (by decide) _ hmem _ hspells).1 (by decide)
  have hvolume : config.knowsReference "volume" = false := by
    rw [Bool.eq_false_iff, Ne, hknown]
    rintro ⟨e, he, htrim, hspells⟩
    have apart : ∀ e ∈ edgesAndFaces, referenceKey "volume" ≠ referenceKey e.1 := by decide
    exact apart e he hspells.referenceKey_eq
  refine ⟨config, hread, (hknown _).2 ⟨_, hmem, by decide, hspells⟩, (Except.ok.inj hcode).symm,
    hvolume, ?_⟩
  rw [hothers _ hvolume]
  exact (Except.ok.inj hunknown).symm

/-- A type may not be found by its own name, which has a blank at its front: no lookup keeps the
blank. -/
theorem ofData_references_face : ∃ config, ofData typedData = .ok config ∧
    sectionEntries typedData "reference_types" = .ok edgesAndFaces ∧
    (edgesAndFaces.map fun e => referenceKey e.1).Nodup ∧ (" face", .int 100) ∈ edgesAndFaces ∧
    Spells " face" " face" ∧ config.knowsReference " face" = false ∧
    config.referenceCode " face" = config.unknownReference ∧
    config.knowsReference "face" = false :=
  ⟨_, rfl, rfl, by decide, .tail _ (.head _), .refl _, rfl, rfl, rfl⟩

end DialogScript.HostConfig
