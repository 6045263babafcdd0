/-!
Entries under keys, in the order in which the keys were first put. Putting a bound key keeps its
place, and an erased key that is put again goes to the end.
-/

namespace DialogScript.Keyed

variable {κ ν : Type} [DecidableEq κ]

/-- The entries with `key` bound to `v`: in its place where it is bound, else at the end. -/
def put (key : κ) (v : ν) : List (κ × ν) → List (κ × ν)
  | [] => [(key, v)]
  | entry :: rest => if entry.1 = key then (key, v) :: rest else entry :: put key v rest

/-- The entries without those of `key`. -/
def erase (key : κ) : List (κ × ν) → List (κ × ν)
  | [] => []
  | entry :: rest => if entry.1 = key then erase key rest else entry :: erase key rest

/-- The entries with the value under `key` changed, if there is one. -/
def modify (key : κ) (f : ν → ν) : List (κ × ν) → List (κ × ν)
  | [] => []
  | entry :: rest =>
    if entry.1 = key then (entry.1, f entry.2) :: rest else entry :: modify key f rest

/-- The entries with `key` as a reading gave it: bound to that value, or not bound. -/
def restore (key : κ) (previous : Option ν) (entries : List (κ × ν)) : List (κ × ν) :=
  match previous with
  | some v => put key v entries
  | none => erase key entries

/-- The keys, in order. -/
def keys (entries : List (κ × ν)) : List κ := entries.map Prod.fst

/-- A list under a key with more items; it begins with its first item. -/
def extended (items : Option (List ν)) (more : List ν) : Option (List ν) :=
  if more.isEmpty then items else some (items.getD [] ++ more)

/-- What is under a key after some entries have been put. -/
def latest (key : κ) (found : Option ν) : List (κ × ν) → Option ν
  | [] => found
  | e :: rest => latest key (if e.1 = key then some e.2 else found) rest

/-- Whether a key is bound. -/
def contains (key : κ) (entries : List (κ × ν)) : Bool := (entries.lookup key).isSome

omit [DecidableEq κ] in
theorem extended_extended (items : Option (List ν)) (more most : List ν) :
    extended (extended items more) most = extended items (more ++ most) := by
  cases more with
  | nil => rfl
  | cons v rest =>
    cases most with
    | nil => simp [extended]
    | cons w others => simp [extended]

theorem mem_of_latest {key : κ} {v : ν} {found : Option ν} {entries : List (κ × ν)}
    (h : latest key found entries = some v) : found = some v ∨ (key, v) ∈ entries := by
  induction entries generalizing found with
  | nil => exact .inl h
  | cons e rest ih =>
    rcases ih h with hfirst | hrest
    · split at hfirst
      · rename_i hk
        cases hfirst
        exact .inr (hk ▸ List.mem_cons_self)
      · exact .inl hfirst
    · exact .inr (List.mem_cons_of_mem e hrest)

theorem latest_of_not_mem {key : κ} {entries : List (κ × ν)} (h : key ∉ keys entries)
    (found : Option ν) : latest key found entries = found := by
  induction entries generalizing found with
  | nil => rfl
  | cons e rest ih =>
    have hk : ¬e.1 = key := fun heq => h (heq ▸ List.mem_cons_self)
    rw [latest, if_neg hk]
    exact ih (fun hmem => h (List.mem_cons_of_mem _ hmem)) found

/-- An entry is the latest one if no later entry has its key. -/
theorem latest_of_last {key : κ} {v : ν} {entries : List (κ × ν)} {i : Nat}
    (h : entries[i]? = some (key, v)) (hlast : key ∉ keys (entries.drop (i + 1)))
    (found : Option ν) : latest key found entries = some v := by
  induction entries generalizing i found with
  | nil => cases h
  | cons e rest ih =>
    cases i with
    | zero =>
      cases h
      rw [latest, if_pos rfl]
      exact latest_of_not_mem hlast _
    | succ i => exact ih h hlast _

theorem keys_put (key : κ) (v : ν) (entries : List (κ × ν)) :
    keys (put key v entries) =
      if key ∈ keys entries then keys entries else keys entries ++ [key] := by
  induction entries with
  | nil => simp [put, keys]
  | cons entry rest ih =>
    by_cases h : entry.1 = key
    · simp [put, keys, h]
    · have h' : ¬ key = entry.1 := fun e => h e.symm
      simp only [keys] at ih ⊢
      by_cases hm : key ∈ rest.map Prod.fst
      · simp [put, h, hm, ih]
      · simp [put, h, h', hm, ih]

theorem mem_keys_put {key other : κ} {v : ν} {entries : List (κ × ν)} :
    other ∈ keys (put key v entries) ↔ other ∈ keys entries ∨ other = key := by
  rw [keys_put]
  split
  · rename_i hk
    refine ⟨.inl, fun h => h.elim id ?_⟩
    rintro rfl
    exact hk
  · rw [List.mem_append, List.mem_singleton]

theorem mem_put {key : κ} {v : ν} {entry : κ × ν} {entries : List (κ × ν)}
    (h : entry ∈ put key v entries) : entry = (key, v) ∨ entry ∈ entries := by
  induction entries with
  | nil => exact .inl (List.mem_singleton.1 h)
  | cons first rest ih =>
    by_cases hk : first.1 = key
    · rw [put, if_pos hk, List.mem_cons] at h
      exact h.imp_right (List.mem_cons_of_mem first)
    · rw [put, if_neg hk, List.mem_cons] at h
      rcases h with rfl | h
      · exact .inr List.mem_cons_self
      · exact (ih h).imp_right (List.mem_cons_of_mem first)

theorem nodup_keys_put {entries : List (κ × ν)} (h : (keys entries).Nodup) (key : κ) (v : ν) :
    (keys (put key v entries)).Nodup := by
  rw [keys_put]
  split
  · exact h
  · rename_i hk
    refine List.nodup_append.2 ⟨h, List.pairwise_singleton _ key, fun a ha b hb hab => hk ?_⟩
    rwa [← List.mem_singleton.1 hb, ← hab]

/-- Putting entries one after the other binds their keys, each once. -/
theorem keys_foldl_put {entries : List (κ × ν)} (h : (keys entries).Nodup) (more : List (κ × ν)) :
    (keys (more.foldl (fun l e => put e.1 e.2 l) entries)).Nodup ∧
      ∀ key, key ∈ keys (more.foldl (fun l e => put e.1 e.2 l) entries) ↔
        key ∈ keys entries ∨ key ∈ keys more := by
  induction more generalizing entries with
  | nil => exact ⟨h, fun key => ⟨.inl, fun hk => hk.elim id (absurd · List.not_mem_nil)⟩⟩
  | cons e rest ih =>
    obtain ⟨hnodup, hmem⟩ := ih (nodup_keys_put h e.1 e.2)
    refine ⟨hnodup, fun key => ?_⟩
    rw [List.foldl_cons, hmem, mem_keys_put]
    simp only [keys, List.map_cons, List.mem_cons, or_assoc]

omit [DecidableEq κ] in
/-- Keys that a renaming tells apart stay different. -/
theorem nodup_keys_map {μ ξ : Type} {rename : κ → μ} (hr : ∀ k l, rename k = rename l → k = l)
    (f : ν → ξ) {entries : List (κ × ν)} (h : (keys entries).Nodup) :
    (keys (entries.map fun e => (rename e.1, f e.2))).Nodup := by
  have hkeys : keys (entries.map fun e => (rename e.1, f e.2)) = (keys entries).map rename := by
    simp [keys]
  rw [hkeys]
  exact List.Pairwise.map rename (fun k l hne heq => hne (hr k l heq)) h

theorem put_of_not_mem {key : κ} {entries : List (κ × ν)} (h : key ∉ keys entries) (v : ν) :
    put key v entries = entries ++ [(key, v)] := by
  induction entries with
  | nil => rfl
  | cons entry rest ih =>
    have hk : ¬entry.1 = key := fun e => h (e ▸ List.mem_cons_self)
    have hrest : key ∉ keys rest := fun hmem => h (List.mem_cons_of_mem _ hmem)
    simp [put, hk, ih hrest]

/-- Entries under different keys are put in their order. -/
theorem foldl_put {entries more : List (κ × ν)} (h : (keys (entries ++ more)).Nodup) :
    more.foldl (fun l e => put e.1 e.2 l) entries = entries ++ more := by
  induction more generalizing entries with
  | nil => exact (List.append_nil entries).symm
  | cons e rest ih =>
    have hfresh : e.1 ∉ keys entries := by
      simp only [keys, List.map_append, List.map_cons, List.nodup_append] at h
      exact fun hmem => h.2.2 e.1 hmem e.1 List.mem_cons_self rfl
    rw [List.foldl_cons, put_of_not_mem hfresh]
    have hsplit : entries ++ e :: rest = (entries ++ [e]) ++ rest := by simp
    rw [hsplit] at h ⊢
    exact ih h

theorem put_put (key : κ) (v w : ν) (entries : List (κ × ν)) :
    put key w (put key v entries) = put key w entries := by
  induction entries with
  | nil => simp [put]
  | cons entry rest ih =>
    by_cases h : entry.1 = key
    · simp [put, h]
    · simp [put, h, ih]

theorem modify_put (key : κ) (f : ν → ν) (v : ν) (entries : List (κ × ν)) :
    modify key f (put key v entries) = put key (f v) entries := by
  induction entries with
  | nil => simp [put, modify]
  | cons entry rest ih =>
    by_cases h : entry.1 = key
    · simp [put, modify, h]
    · simp [put, modify, h, ih]

theorem map_put {μ : Type} (f : κ → ν → μ) (key : κ) (v : ν) (entries : List (κ × ν)) :
    (put key v entries).map (fun e => (e.1, f e.1 e.2)) =
      put key (f key v) (entries.map fun e => (e.1, f e.1 e.2)) := by
  induction entries with
  | nil => rfl
  | cons entry rest ih =>
    by_cases h : entry.1 = key
    · simp [put, h]
    · simp [put, h, ih]

theorem keys_modify (key : κ) (f : ν → ν) (entries : List (κ × ν)) :
    keys (modify key f entries) = keys entries := by
  induction entries with
  | nil => rfl
  | cons entry rest ih =>
    simp only [keys] at ih ⊢
    by_cases h : entry.1 = key <;> simp [modify, h, ih]

theorem erase_sublist (key : κ) (entries : List (κ × ν)) : (erase key entries).Sublist entries := by
  induction entries with
  | nil => exact .slnil
  | cons entry rest ih =>
    unfold erase
    split
    · exact ih.cons entry
    · exact ih.cons_cons entry

theorem nodup_keys_restore {entries : List (κ × ν)} (h : (keys entries).Nodup) (key : κ)
    (previous : Option ν) : (keys (restore key previous entries)).Nodup := by
  cases previous with
  | some v => exact nodup_keys_put h key v
  | none => exact h.sublist ((erase_sublist key entries).map Prod.fst)

theorem erase_put_of_ne {key other : κ} (h : key ≠ other) (v : ν) (entries : List (κ × ν)) :
    erase key (put other v entries) = put other v (erase key entries) := by
  induction entries with
  | nil => simp [put, erase, h.symm]
  | cons entry rest ih =>
    by_cases ho : entry.1 = other
    · have hk : ¬entry.1 = key := fun e => h (e.symm.trans ho)
      simp [put, erase, ho, h.symm]
    · by_cases hk : entry.1 = key <;> simp [put, erase, ho, hk, h, ih]

theorem modify_put_of_ne {key other : κ} (h : key ≠ other) (f : ν → ν) (v : ν)
    (entries : List (κ × ν)) :
    modify key f (put other v entries) = put other v (modify key f entries) := by
  induction entries with
  | nil => simp [put, modify, h.symm]
  | cons entry rest ih =>
    by_cases ho : entry.1 = other
    · simp [put, modify, ho, h.symm]
    · by_cases hk : entry.1 = key <;> simp [put, modify, ho, hk, h, ih]

/-! ## Looking up -/

variable [BEq κ] [LawfulBEq κ]

theorem lookup_put_self (key : κ) (v : ν) (entries : List (κ × ν)) :
    (put key v entries).lookup key = some v := by
  induction entries with
  | nil => simp [put]
  | cons entry rest ih =>
    obtain ⟨k, w⟩ := entry
    by_cases h : k = key
    · simp [put, h]
    · have hb : (key == k) = false := beq_eq_false_iff_ne.2 fun e => h e.symm
      simp [put, h, List.lookup_cons, hb, ih]

theorem lookup_put_self_ne_none (key : κ) (v : ν) (entries : List (κ × ν)) :
    (put key v entries).lookup key ≠ none := by
  rw [lookup_put_self]
  exact Option.some_ne_none v

theorem lookup_put_of_ne {key other : κ} (h : other ≠ key) (v : ν) (entries : List (κ × ν)) :
    (put key v entries).lookup other = entries.lookup other := by
  have hb : (other == key) = false := beq_eq_false_iff_ne.2 h
  induction entries with
  | nil => simp [put, List.lookup_cons, hb]
  | cons entry rest ih =>
    obtain ⟨k, w⟩ := entry
    by_cases hk : k = key
    · obtain rfl := hk
      simp [put, List.lookup_cons, hb]
    · simp only [put, hk, if_false, List.lookup_cons, ih]

theorem lookup_put (key : κ) (v : ν) (other : κ) (entries : List (κ × ν)) :
    (put key v entries).lookup other = if other = key then some v else entries.lookup other := by
  by_cases h : other = key
  · rw [if_pos h, h]
    exact lookup_put_self key v entries
  · rw [if_neg h]
    exact lookup_put_of_ne h v entries

omit [DecidableEq κ] [LawfulBEq κ] in
theorem lookup_map_snd {μ : Type} (f : ν → μ) (entries : List (κ × ν)) (key : κ) :
    (entries.map fun e => (e.1, f e.2)).lookup key = (entries.lookup key).map f := by
  induction entries with
  | nil => rfl
  | cons entry rest ih =>
    obtain ⟨k, v⟩ := entry
    simp only [List.map_cons, List.lookup_cons, ih]
    cases key == k <;> rfl

theorem lookup_put_ne_none {key : κ} {entries : List (κ × ν)} (h : entries.lookup key ≠ none)
    (other : κ) (v : ν) : (put other v entries).lookup key ≠ none := by
  rw [lookup_put]
  split
  · exact nofun
  · exact h

theorem lookup_erase_self (key : κ) (entries : List (κ × ν)) :
    (erase key entries).lookup key = none := by
  induction entries with
  | nil => rfl
  | cons entry rest ih =>
    obtain ⟨k, w⟩ := entry
    by_cases h : k = key
    · simp only [erase, h, if_true, ih]
    · have hb : (key == k) = false := beq_eq_false_iff_ne.2 fun e => h e.symm
      simp only [erase, h, if_false, List.lookup_cons, hb, ih]

omit [DecidableEq κ] in
theorem mem_of_lookup {key : κ} {v : ν} {entries : List (κ × ν)}
    (h : entries.lookup key = some v) : (key, v) ∈ entries := by
  obtain ⟨before, after, rfl, -⟩ := List.lookup_eq_some_iff.1 h
  exact List.mem_append_right _ List.mem_cons_self

omit [DecidableEq κ] in
theorem lookup_isSome_iff {key : κ} {entries : List (κ × ν)} :
    (entries.lookup key).isSome = true ↔ key ∈ keys entries := by
  rw [List.lookup_isSome_iff, keys, List.mem_map]
  simp only [beq_iff_eq, @eq_comm _ key]

/-- What is under a key after entries have been put one after the other. -/
theorem lookup_foldl_put (key : κ) (entries more : List (κ × ν)) :
    (more.foldl (fun l e => put e.1 e.2 l) entries).lookup key =
      latest key (entries.lookup key) more := by
  induction more generalizing entries with
  | nil => rfl
  | cons e rest ih =>
    rw [List.foldl_cons, ih, lookup_put]
    simp only [latest, eq_comm]

/-- Under different keys, an entry is the latest one as soon as it is there. -/
theorem latest_of_nodup {entries : List (κ × ν)} (h : (keys entries).Nodup) (key : κ)
    (found : Option ν) : latest key found entries = (entries.lookup key).or found := by
  induction entries generalizing found with
  | nil => rfl
  | cons e rest ih =>
    obtain ⟨k, v⟩ := e
    obtain ⟨hfresh, hrest⟩ := List.nodup_cons.1 h
    by_cases hk : k = key
    · subst hk
      rw [latest, if_pos rfl, latest_of_not_mem hfresh]
      simp
    · have hb : (key == k) = false := beq_eq_false_iff_ne.2 fun heq => hk heq.symm
      rw [latest, if_neg hk, ih hrest, List.lookup_cons, hb]

omit [DecidableEq κ] in
/-- Under different keys, every entry is found. -/
theorem lookup_of_mem {key : κ} {v : ν} {entries : List (κ × ν)} (h : (keys entries).Nodup)
    (hmem : (key, v) ∈ entries) : entries.lookup key = some v := by
  induction entries with
  | nil => cases hmem
  | cons e rest ih =>
    obtain ⟨k, w⟩ := e
    obtain ⟨hfresh, hrest⟩ := List.nodup_cons.1 h
    rcases List.mem_cons.1 hmem with heq | hlater
    · cases heq
      exact List.lookup_cons_self
    · have hne : key ≠ k := fun heq => hfresh (List.mem_map.2 ⟨(key, v), hlater, heq⟩)
      rw [List.lookup_cons, beq_eq_false_iff_ne.2 hne]
      exact ih hrest hlater

/-! ## Taking writes back -/

theorem lookup_eq_none_of_cons {key : κ} {entry : κ × ν} {rest : List (κ × ν)}
    (h : (entry :: rest).lookup key = none) : ¬entry.1 = key ∧ rest.lookup key = none := by
  obtain ⟨k, w⟩ := entry
  by_cases hk : k = key
  · simp [hk] at h
  · have hb : (key == k) = false := beq_eq_false_iff_ne.2 fun e => hk e.symm
    simp only [List.lookup_cons, hb] at h
    exact ⟨hk, h⟩

theorem put_of_lookup {key : κ} {v : ν} {entries : List (κ × ν)}
    (h : entries.lookup key = some v) : put key v entries = entries := by
  induction entries with
  | nil => cases h
  | cons entry rest ih =>
    obtain ⟨k, w⟩ := entry
    by_cases hk : k = key
    · obtain rfl := hk
      simp only [List.lookup_cons, beq_self_eq_true, Option.some.injEq] at h
      simp [put, h]
    · have hb : (key == k) = false := beq_eq_false_iff_ne.2 fun e => hk e.symm
      simp only [List.lookup_cons, hb] at h
      simp [put, hk, ih h]

theorem lookup_erase_of_ne {key other : κ} (h : other ≠ key) (entries : List (κ × ν)) :
    (erase key entries).lookup other = entries.lookup other := by
  induction entries with
  | nil => rfl
  | cons entry rest ih =>
    obtain ⟨k, w⟩ := entry
    by_cases hk : k = key
    · have hb : (other == k) = false := beq_eq_false_iff_ne.2 fun e => h (e.trans hk)
      simp only [erase, hk, if_true, ih, List.lookup_cons]
      rw [← hk, hb]
    · simp only [erase, hk, if_false, List.lookup_cons, ih]

theorem lookup_erase_of_none {key : κ} {entries : List (κ × ν)} (h : entries.lookup key = none)
    (other : κ) : (erase other entries).lookup key = none := by
  by_cases ho : key = other
  · rw [ho]
    exact lookup_erase_self other entries
  · rw [lookup_erase_of_ne ho, h]

theorem lookup_modify (key : κ) (f : ν → ν) (other : κ) (entries : List (κ × ν)) :
    (modify key f entries).lookup other =
      if other = key then (entries.lookup other).map f else entries.lookup other := by
  induction entries with
  | nil => simp [modify]
  | cons entry rest ih =>
    obtain ⟨k, w⟩ := entry
    by_cases hk : k = key
    · obtain rfl := hk
      by_cases ho : other = k
      · simp [modify, ho]
      · have hb : (other == k) = false := beq_eq_false_iff_ne.2 ho
        simp [modify, List.lookup_cons, hb, ho]
    · simp only [modify, hk, if_false, List.lookup_cons, ih]
      cases hb : other == k with
      | false => rfl
      | true =>
        have ho : ¬other = key := fun e => hk (e ▸ (beq_iff_eq.1 hb).symm)
        simp [ho]

theorem erase_put {key : κ} {entries : List (κ × ν)} (h : entries.lookup key = none) (v : ν) :
    erase key (put key v entries) = entries := by
  induction entries with
  | nil => simp [put, erase]
  | cons entry rest ih =>
    obtain ⟨hk, hr⟩ := lookup_eq_none_of_cons h
    simp [put, erase, hk, ih hr]

/-- Restoring what a reading gave takes a write back. -/
theorem restore_put (key : κ) (v : ν) (entries : List (κ × ν)) :
    restore key (entries.lookup key) (put key v entries) = entries := by
  unfold restore
  cases h : entries.lookup key with
  | some w =>
    show put key w (put key v entries) = entries
    rw [put_put, put_of_lookup h]
  | none => exact erase_put h v

/-! ## Writes to different keys -/

/-- Two keys are put in either order, if one of them has its place. -/
theorem put_put_of_ne {key other : κ} (h : key ≠ other) {entries : List (κ × ν)}
    (hk : entries.lookup key ≠ none) (v w : ν) :
    put key v (put other w entries) = put other w (put key v entries) := by
  induction entries with
  | nil => exact absurd rfl hk
  | cons entry rest ih =>
    obtain ⟨k, u⟩ := entry
    by_cases he : k = key
    · subst he
      simp [put, h]
    · have hb : (key == k) = false := beq_eq_false_iff_ne.2 fun e => he e.symm
      have hrest : rest.lookup key ≠ none := by simpa only [List.lookup_cons, hb] using hk
      by_cases ho : k = other
      · subst ho
        simp [put, he]
      · simp [put, he, ho, ih hrest]

/-- A reading is restored before or after a write to another key, if it had a value only where the
key has its place. -/
theorem restore_put_of_ne {key other : κ} (h : key ≠ other) {previous : Option ν}
    {entries : List (κ × ν)} (hk : previous.isSome → entries.lookup key ≠ none) (w : ν) :
    restore key previous (put other w entries) = put other w (restore key previous entries) := by
  cases previous with
  | some v => exact put_put_of_ne h (hk rfl) v w
  | none => exact erase_put_of_ne h w entries

theorem lookup_restore_of_ne {key other : κ} (h : other ≠ key) (previous : Option ν)
    (entries : List (κ × ν)) :
    (restore key previous entries).lookup other = entries.lookup other := by
  cases previous with
  | some v => exact lookup_put_of_ne h v entries
  | none => exact lookup_erase_of_ne h entries

theorem lookup_restore_self (key : κ) (previous : Option ν) (entries : List (κ × ν)) :
    (restore key previous entries).lookup key = previous := by
  cases previous with
  | some v => exact lookup_put_self key v entries
  | none => exact lookup_erase_self key entries

end DialogScript.Keyed
