import DialogScript.Table.Key

/-!
The text keys of the registry tell its entries apart. The stems of the option keys are a prefix
code: none of them begins another, so that a key shows where its stem ends, whatever the name after
it. None of them begins a fixed key either. The key of a record shows its number, which is read back
from the digits with the sign first.
-/

namespace DialogScript

/-! ## Option keys -/

theorem CommandKind.mem_all (kind : CommandKind) : kind ∈ CommandKind.all := by
  cases kind <;> decide

/-- No stem begins another. -/
theorem optionStem_prefixFree {kind other : CommandKind}
    (h : (optionStem kind).toList <+: (optionStem other).toList) : kind = other := by
  have code : ∀ k ∈ CommandKind.all, ∀ l ∈ CommandKind.all,
      (optionStem k).toList <+: (optionStem l).toList → k = l := by decide +kernel
  exact code kind kind.mem_all other other.mem_all h

theorem optionStem_begins (kind : CommandKind) (name : String) :
    (optionStem kind).toList <+: (optionKey kind name).toList := by
  rw [optionKey, String.toList_append]
  exact List.prefix_append _ _

theorem optionKey_inj {kind other : CommandKind} {name given : String}
    (h : optionKey kind name = optionKey other given) : kind = other ∧ name = given := by
  have hkind : kind = other := by
    rcases List.prefix_or_prefix_of_prefix (optionStem_begins kind name)
      (h ▸ optionStem_begins other given) with hfirst | hsecond
    · exact optionStem_prefixFree hfirst
    · exact (optionStem_prefixFree hsecond).symm
  subst hkind
  exact ⟨rfl, (String.append_right_inj _).1 h⟩

/-! ## Fixed keys -/

theorem TrackedList.name_inj {list other : TrackedList} (h : list.name = other.name) :
    list = other := by
  cases list <;> cases other <;> first | rfl | exact absurd h (by decide)

theorem Singleton.name_inj {which other : Singleton} (h : which.name = other.name) :
    which = other := by
  cases which <;> cases other <;> first | rfl | exact absurd h (by decide)

/-- The keys of the shared lists, of the entries that exist once and of the records of a kind. -/
def fixedKeys : List String :=
  TrackedList.all.map TrackedList.name ++ Singleton.all.map Singleton.name ++
    RecordKind.all.map RecordKind.name

theorem nodup_fixedKeys : fixedKeys.Nodup := by decide

theorem TrackedList.mem_names (list : TrackedList) :
    list.name ∈ TrackedList.all.map TrackedList.name := by
  cases list <;> decide

theorem Singleton.mem_names (which : Singleton) :
    which.name ∈ Singleton.all.map Singleton.name := by
  cases which <;> decide

theorem TrackedList.name_mem_fixedKeys (list : TrackedList) : list.name ∈ fixedKeys :=
  List.mem_append_left _ (List.mem_append_left _ list.mem_names)

theorem Singleton.name_mem_fixedKeys (which : Singleton) : which.name ∈ fixedKeys :=
  List.mem_append_left _ (List.mem_append_right _ which.mem_names)

theorem RecordKind.mem_all (kind : RecordKind) : kind ∈ RecordKind.all := by
  cases kind <;> decide

theorem RecordKind.name_mem_fixedKeys (kind : RecordKind) : kind.name ∈ fixedKeys :=
  List.mem_append_right _ (List.mem_map_of_mem kind.mem_all)

/-- No stem begins a fixed key. -/
theorem optionKey_not_mem_fixedKeys (kind : CommandKind) (name : String) :
    optionKey kind name ∉ fixedKeys := by
  have apart : ∀ key ∈ fixedKeys, ∀ k ∈ CommandKind.all,
      ¬(optionStem k).toList <+: key.toList := by decide +kernel
  exact fun hmem => apart _ hmem kind kind.mem_all (optionStem_begins kind name)

/-! ## Record keys -/

/-- The number that digits stand for, with or without a sign before them. -/
def signedNumber : List Char → Int
  | '-' :: digits => -(Nat.ofDigitChars 10 digits 0 : Int)
  | digits => (Nat.ofDigitChars 10 digits 0 : Int)

theorem signedNumber_of_digits {digits : List Char} (h : ∀ c ∈ digits, c.isDigit = true) :
    signedNumber digits = (Nat.ofDigitChars 10 digits 0 : Int) := by
  unfold signedNumber
  split
  · exact absurd (h '-' List.mem_cons_self) (by decide)
  · rfl

theorem isDigit_padded (zeros n : Nat) :
    ∀ c ∈ List.replicate zeros '0' ++ Nat.toDigits 10 n, c.isDigit = true := by
  intro c hc
  rcases List.mem_append.1 hc with hzero | hdigit
  · rw [List.eq_of_mem_replicate hzero]
    decide
  · exact Nat.isDigit_of_mem_toDigits (by decide) (by decide) hdigit

theorem ofDigitChars_padded (zeros n : Nat) :
    Nat.ofDigitChars 10 (List.replicate zeros '0' ++ Nat.toDigits 10 n) 0 = n := by
  rw [Nat.ofDigitChars_append, Nat.ofDigitChars_replicate_zero, Nat.mul_zero]
  exact Nat.ofDigitChars_toDigits (by decide) (by decide)

theorem signedNumber_paddedNumber (width : Nat) (n : Int) :
    signedNumber (paddedNumber width n).toList = n := by
  unfold paddedNumber
  simp only [String.toList_ofList]
  by_cases hn : n < 0
  · rw [if_pos hn]
    show -(Nat.ofDigitChars 10 (List.replicate _ '0' ++ _) 0 : Int) = n
    rw [ofDigitChars_padded]
    omega
  · rw [if_neg hn, List.nil_append, signedNumber_of_digits (isDigit_padded _ _),
      ofDigitChars_padded]
    omega

theorem paddedNumber_inj {width : Nat} {n m : Int}
    (h : paddedNumber width n = paddedNumber width m) : n = m := by
  rw [← signedNumber_paddedNumber width n, h, signedNumber_paddedNumber]

theorem RecordKind.keyText_inj {kind : RecordKind} {id other : Int}
    (h : kind.keyText id = kind.keyText other) : id = other :=
  paddedNumber_inj ((String.append_right_inj _).1 h)

example : RecordKind.assignments.keyText (-12) = "ASSIGN_-012" := by decide

theorem Number.checkWritable_singleton (n : Int) :
    Number.checkWritable [n] =
      if Numeral.isWritable n = true then .ok () else .error .longIntegerText := by
  unfold Number.checkWritable
  rw [List.all_cons, List.all_nil, Bool.and_true]

/-- A number that can be written has its text for a key, and any other has no key. -/
theorem RecordKind.key_eq (kind : RecordKind) (id : Int) :
    kind.key id =
      if Numeral.isWritable id = true then .ok (kind.keyText id) else .error .longIntegerText := by
  unfold RecordKind.key
  rw [Number.checkWritable_singleton]
  split <;> rfl

theorem RecordKind.key_eq_ok {kind : RecordKind} {id : Int} {key : String} :
    kind.key id = .ok key ↔ Numeral.isWritable id = true ∧ key = kind.keyText id := by
  rw [RecordKind.key_eq]
  by_cases hw : Numeral.isWritable id = true
  · rw [if_pos hw, Except.ok.injEq, and_iff_right hw]
    exact eq_comm
  · rw [if_neg hw]
    exact iff_of_false nofun fun h => hw h.1

end DialogScript
