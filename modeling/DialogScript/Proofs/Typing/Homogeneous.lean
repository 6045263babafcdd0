import DialogScript.Table.Basic

/-!
Homogeneous values: in each array, at any depth, all items have one type. Nothing in the language
makes an array, so the arrays that an expression meets are those that were bound.
-/

namespace DialogScript

/-- A value in which the items of each array, at any depth, have one type. -/
inductive Value.Homogeneous : Value → Prop
  | plain {v : Value} : v.type.isContainer = false → Homogeneous v
  | array {items : List Value} (t : ValueType) :
      (∀ v ∈ items, v.type = t) → (∀ v ∈ items, Homogeneous v) → Homogeneous (array items)
  | map {entries : List (String × Option Value)} :
      (∀ key v, (key, some v) ∈ entries → Homogeneous v) → Homogeneous (map entries)
  | struct {members : List (String × Option Value)} :
      (∀ key v, (key, some v) ∈ members → Homogeneous v) → Homogeneous (struct members)

/-- A table that binds homogeneous values only. -/
def SymbolTable.Homogeneous (t : SymbolTable) : Prop :=
  ∀ name v, t.lookup name = some v → v.Homogeneous

namespace Value.Homogeneous

theorem items_type {items : List Value} (h : Homogeneous (.array items)) {v w : Value}
    (hv : v ∈ items) (hw : w ∈ items) : v.type = w.type := by
  cases h with
  | plain h => cases h
  | array t ht _ => rw [ht v hv, ht w hw]

theorem item {items : List Value} (h : Homogeneous (.array items)) {v : Value} (hv : v ∈ items) :
    v.Homogeneous := by
  cases h with
  | plain h => cases h
  | array _ _ hi => exact hi v hv

theorem entry {entries : List (String × Option Value)} (h : Homogeneous (.map entries))
    {key : String} {v : Value} (hv : (key, some v) ∈ entries) : v.Homogeneous := by
  cases h with
  | plain h => cases h
  | map he => exact he key v hv

theorem member {members : List (String × Option Value)} (h : Homogeneous (.struct members))
    {key : String} {v : Value} (hv : (key, some v) ∈ members) : v.Homogeneous := by
  cases h with
  | plain h => cases h
  | struct hm => exact hm key v hv

theorem zeroOf (t : ValueType) : (Value.zeroOf t).Homogeneous := by
  cases t with
  | array =>
    refine .array .integer ?_ ?_
    · exact fun _ h => absurd h List.not_mem_nil
    · exact fun _ h => absurd h List.not_mem_nil
  | map => exact .map fun _ _ h => absurd h List.not_mem_nil
  | struct => exact .struct fun _ _ h => absurd h List.not_mem_nil
  | _ => exact .plain rfl

theorem strings (texts : List String) : (Value.strings texts).Homogeneous := by
  refine .array .string ?_ ?_
  · intro v hv
    obtain ⟨s, -, rfl⟩ := List.mem_map.1 hv
    rfl
  · intro v hv
    obtain ⟨s, -, rfl⟩ := List.mem_map.1 hv
    exact .plain rfl

theorem mapOf {entries : List (String × Value)} (h : ∀ e ∈ entries, e.2.Homogeneous) :
    (Value.mapOf entries).Homogeneous := by
  refine .map fun key v hv => ?_
  obtain ⟨e, he, hkey⟩ := List.mem_map.1 hv
  cases hkey
  exact h e he

end Value.Homogeneous

namespace SymbolTable

theorem lookup_log (t : SymbolTable) (u : Undo) (name : String) :
    (t.log u).lookup name = t.lookup name := by
  unfold log
  split <;> rfl

/-- After a write a name has the value it had, or the one that the write binds it to. -/
theorem lookup_apply {t : SymbolTable} {w : Write} {name : String} {v : Value}
    (h : (t.apply w).lookup name = some v) :
    t.lookup name = some v ∨ w = .declare name v ∨ w = .overwrite name v := by
  -- A binding that is put under some name is found under that name alone.
  have put {b : Binding} {other : String} {t' : SymbolTable}
      (hp : t'.bindings = Keyed.put other b t.bindings) (h : t'.lookup name = some v) :
      t.lookup name = some v ∨ name = other ∧ b.value = v := by
    unfold lookup binding? at h ⊢
    rw [hp, Keyed.lookup_put] at h
    by_cases hn : name = other
    · rw [if_pos hn] at h
      exact .inr ⟨hn, Option.some.inj h⟩
    · rw [if_neg hn] at h
      exact .inl h
  cases w with
  | declare other value =>
    simp only [apply, declare] at h
    cases hb : t.binding? other with
    | some b =>
      rw [hb] at h
      dsimp only at h
      rw [lookup_log] at h
      refine .inl ?_
      rcases put rfl h with h | ⟨rfl, rfl⟩
      · exact h
      · rw [lookup, hb]
        rfl
    | none =>
      rw [hb] at h
      dsimp only at h
      rw [lookup_log, lookup_log] at h
      rcases put rfl h with h | ⟨rfl, rfl⟩
      · exact .inl h
      · exact .inr (.inl rfl)
  | overwrite other value =>
    simp only [apply, overwrite] at h
    rw [lookup_log] at h
    rcases put rfl h with h | ⟨rfl, hv⟩
    · exact .inl h
    · refine .inr (.inr ?_)
      cases hb : t.binding? name with
      | some b =>
        rw [hb] at hv
        exact congrArg _ hv
      | none =>
        rw [hb] at hv
        exact congrArg _ hv
  | setOptions kind other value =>
    rw [apply, setOptions, lookup_log] at h
    exact .inl h
  | appendTracked list item =>
    rw [apply, appendTracked] at h
    split at h
    · rw [lookup_log] at h
      exact .inl h
    · rw [lookup_log, lookup_log] at h
      exact .inl h
  | setSingleton which value =>
    rw [apply, setSingleton, lookup_log] at h
    exact .inl h
  | setRecord kind id value =>
    rw [apply, setRecord, lookup_log] at h
    cases kind <;> exact .inl h

/-- A write that binds no value but a homogeneous one. -/
def Write.Homogeneous : Write → Prop
  | declare _ v | overwrite _ v => v.Homogeneous
  | _ => True

theorem Homogeneous.apply {t : SymbolTable} (ht : t.Homogeneous) {w : Write}
    (hw : w.Homogeneous) : (t.apply w).Homogeneous := by
  intro name v h
  rcases lookup_apply h with h | rfl | rfl
  · exact ht name v h
  · exact hw
  · exact hw

end SymbolTable

end DialogScript
