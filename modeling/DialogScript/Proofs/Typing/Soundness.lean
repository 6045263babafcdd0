import DialogScript.Proofs.Typing.Reading

/-!
Soundness of static types. By induction on expressions all readings of every expression agree, so an
expression with a static type evaluates to a value of exactly that type, or fails where the values
decide: a concatenation without a text, a built-in function outside its domain, a division by zero,
an index outside its array, or a breakdown of arithmetic. The table must bind homogeneous values,
because the type of an array element is read off the first element.
-/

namespace DialogScript

namespace Expr

variable {s : Scope}

mutual

theorem reading_sound (hom : ∀ name v, s.lookup name = some v → v.Homogeneous) :
    ∀ e : Expr, e.reading.Sound s
  | absent => Reading.sound_absent
  | literal span l => Reading.sound_literal span l
  | constant span name x => Reading.sound_constant span name x
  | named span name => Reading.sound_named hom span name
  | unary span op operand =>
    Reading.sound_unary span op ⟨operand, operand.reading⟩ (reading_sound hom operand)
  | binary span left op right =>
    Reading.sound_binary span op ⟨left, left.reading⟩ ⟨right, right.reading⟩
      (reading_sound hom left) (reading_sound hom right)
  | call span name args => Reading.sound_call span name args (arguments_sound hom args)
  | index span base i =>
    Reading.sound_index span ⟨base, base.reading⟩ ⟨i, i.reading⟩ (reading_sound hom base)
      (reading_sound hom i)
  | entry span map key =>
    Reading.sound_entry span ⟨map, map.reading⟩ key (reading_sound hom map)
  | member span struct name =>
    Reading.sound_member span ⟨struct, struct.reading⟩ name (reading_sound hom struct)

theorem arguments_sound (hom : ∀ name v, s.lookup name = some v → v.Homogeneous) :
    ∀ es : List Expr, ∀ a ∈ arguments es, a.reading.Sound s
  | [] => by
    intro a ha
    cases ha
  | e :: rest => by
    intro a ha
    rcases List.mem_cons.mp ha with rfl | ha
    · exact reading_sound hom e
    · exact arguments_sound hom rest a ha

end

end Expr

/-- An expression with a static type has a value of that type, unless its evaluation fails where
only values decide. -/
theorem eval_of_typeOf (t : SymbolTable) (epsilon : Float) (e : Expr) (type : ValueType)
    (hom : t.Homogeneous) (h : (e.typeOf ⟨t.lookup, epsilon⟩).result = .ok type) :
    (∃ v, (e.eval ⟨t.lookup, epsilon⟩).result = .ok v ∧ v.type = type) ∨
      (∃ f, (e.eval ⟨t.lookup, epsilon⟩).result = .error (.error f) ∧
        f.problem.isDynamic = true ∧ f.problem.code ∈ ["E208", "E301", "E304", "E506"]) ∨
      ∃ b, (e.eval ⟨t.lookup, epsilon⟩).result = .error (.broken b) ∧
        b.family ∈ [.overflow, .value, .zeroDivision] := by
  obtain ⟨hok, herror⟩ := (Expr.reading_sound (s := ⟨t.lookup, epsilon⟩) hom e).value type h
  cases hr : (e.eval ⟨t.lookup, epsilon⟩).result with
  | ok v => exact .inl ⟨v, rfl, hok v hr⟩
  | error f =>
    have hf := herror f hr
    cases f with
    | error f => exact .inr (.inl ⟨f, rfl, hf, Problem.code_of_isDynamic hf⟩)
    | broken b =>
      refine .inr (.inr ⟨b, rfl, ?_⟩)
      simpa [Failure.isDynamic, Breakdown.isArithmetic, or_assoc] using hf

/-- A table with an array of arrays and an index into it. -/
def nestedTable : SymbolTable :=
  { bindings := [("rows", { value := .array [.array [.integer 4, .integer 7], .array []] }),
      ("i", { value := .integer 1 })] }

/-- The quotient of an element of an inner array by an index. -/
def nestedQuotient : Expr :=
  .binary none
    (.index none (.index none (.named none "rows") (.literal none (.integer (.number 0))))
      (.named none "i"))
    .slash (.named none "i")

theorem nestedTable_homogeneous : nestedTable.Homogeneous := by
  have inner (ns : List Int) : (Value.array (ns.map Value.integer)).Homogeneous := by
    refine .array .integer ?_ ?_ <;> intro v hv <;> obtain ⟨n, _, rfl⟩ := List.mem_map.mp hv
    · rfl
    · exact .plain rfl
  intro name v h
  simp only [nestedTable, SymbolTable.lookup, SymbolTable.binding?, List.lookup_cons,
    List.lookup_nil] at h
  split at h
  · cases h
    refine .array .array ?_ ?_
    · simp [Value.type]
    · intro w hw
      simp only [List.mem_cons, List.not_mem_nil, or_false] at hw
      rcases hw with rfl | rfl
      · exact inner [4, 7]
      · exact inner []
  · split at h
    · cases h
      exact .plain rfl
    · cases h

theorem eval_of_typeOf_nestedQuotient :
    nestedTable.Homogeneous ∧
    (nestedQuotient.typeOf ⟨nestedTable.lookup, 1e-9⟩).result = .ok .double ∧
    ((∃ v, (nestedQuotient.eval ⟨nestedTable.lookup, 1e-9⟩).result = .ok v ∧ v.type = .double) ∨
      (∃ f, (nestedQuotient.eval ⟨nestedTable.lookup, 1e-9⟩).result = .error (.error f) ∧
        f.problem.isDynamic = true ∧ f.problem.code ∈ ["E208", "E301", "E304", "E506"]) ∨
      ∃ b, (nestedQuotient.eval ⟨nestedTable.lookup, 1e-9⟩).result = .error (.broken b) ∧
        b.family ∈ [.overflow, .value, .zeroDivision]) :=
  ⟨nestedTable_homogeneous, rfl, eval_of_typeOf _ _ _ _ nestedTable_homogeneous rfl⟩

end DialogScript
