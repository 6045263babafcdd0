import DialogScript.Proofs.Builtins.Written
import DialogScript.Proofs.Decimal.Finite
import DialogScript.Proofs.Typing.Builtins

/-!
Which texts are numbers. The numerals of integers are among those of real numbers, and such a
numeral is read as the double next to the integer it stands for. So a text is an integer, a double
or no number at all; only an integer that is rounded beyond the largest double is no number, because
there is no finite double to read it as.
-/

namespace DialogScript

namespace Numeral

open DialogScript.Text
open DialogScript.Decimal

/-! ## Integers as real numbers -/

/-- No digit is a letter that has another case. -/
theorem toLower_of_digitValue? {c : Char} {d : Nat} (h : digitValue? c = some d) :
    c.toLower = c := by
  have apart : ¬('A'.val ≤ c.val ∧ c.val ≤ 'Z'.val) := by
    intro hu
    have low : 65 ≤ c.toNat := hu.1
    have high : c.toNat ≤ 90 := hu.2
    have other : c.isDigit = false := by
      simp only [Char.isDigit, Bool.and_eq_false_iff, decide_eq_false_iff_not]
      refine .inr fun hd => ?_
      have : c.toNat ≤ 57 := hd
      omega
    rw [digitValue?, other, if_neg Bool.false_ne_true, if_pos (show c.toNat < 0x80 by omega)] at h
    cases h
  exact dif_neg apart

theorem digitGroup_ne_nil {body rest : List Char} {ds : List Nat} (h : digitGroup body = (ds, rest))
    (hd : ds ≠ []) : ∃ c after d, body = c :: after ∧ digitValue? c = some d := by
  cases body with
  | nil =>
    cases h
    exact absurd rfl hd
  | cons c after =>
    cases hc : digitValue? c with
    | none =>
      rw [digitGroup.eq_def] at h
      simp only [hc] at h
      cases h
      exact absurd rfl hd
    | some d => exact ⟨c, after, d, rfl, hc⟩

/-- What begins with a digit is no word. -/
theorem ne_word {body rest : List Char} {ds : List Nat} (h : digitGroup body = (ds, rest))
    (hd : ds ≠ []) {word : String} {letter : Char} {letters : List Char}
    (hw : word.toList = letter :: letters) (hl : digitValue? letter = none) :
    String.ofList (body.map Char.toLower) ≠ word := by
  obtain ⟨c, after, d, rfl, hc⟩ := digitGroup_ne_nil h hd
  rintro rfl
  rw [String.toList_ofList, List.map_cons, toLower_of_digitValue? hc] at hw
  cases hw
  rw [hl] at hc
  cases hc

/-- Digits alone are the magnitude of the number that they stand for. -/
theorem magnitude?_of_digits {body : List Char} {ds : List Nat} (h : digitGroup body = (ds, []))
    (hd : ds ≠ []) : magnitude? body = some (nearestDecimal (ofDigits ds) 0) := by
  have short : String.ofList (body.map Char.toLower) ≠ "inf" := ne_word h hd rfl (by decide)
  have long : String.ofList (body.map Char.toLower) ≠ "infinity" := ne_word h hd rfl (by decide)
  have undefined : String.ofList (body.map Char.toLower) ≠ "nan" := ne_word h hd rfl (by decide)
  have whole : fraction body = (ds, [], []) := by
    rw [fraction, h]
  simp only [magnitude?, whole, exponent?]
  rw [if_neg (by simp [short, long]), if_neg undefined, if_neg (by simp [hd]), List.append_nil]
  rfl

/-- A whole number is read as the double next to it. -/
theorem nearestDecimal_zero (n : Nat) : nearestDecimal n 0 = (nearest? n 1).getD infinity := by
  rw [nearestDecimal]
  split
  · next h =>
    rw [h]
    rfl
  · dsimp only
    split
    · next h =>
      -- out of range already by the number of its digits
      have large : Number.tooLarge ≤ n :=
        Number.tooLarge_le_of_length (k := 400) (by decide) (by omega)
      rw [nearest?_eq_none_iff.2 large]
      rfl
    · split
      · omega
      · have plain : ratio n 10 0 = (n, 1) := congrArg (·, 1) (Nat.mul_one n)
        rw [plain]

/-- The parts of a text that is read as an integer. -/
theorem integer?_eq_some {s : String} {n : Int} (h : integer? s = some n) :
    ∃ negative body ds, sign (trimBy isSpacing (trim s).toList) = (negative, body) ∧
      digitGroup body = (ds, []) ∧ ds ≠ [] ∧
      n = if negative then -(ofDigits ds : Int) else ofDigits ds := by
  have read : readInteger (trimBy isSpacing (trim s).toList) = .number n := by
    rw [integer?] at h
    split at h
    · next m hm =>
      cases h
      exact hm
    · cases h
  rcases hsign : sign (trimBy isSpacing (trim s).toList) with ⟨negative, body⟩
  rcases hgroup : digitGroup body with ⟨ds, rest⟩
  simp only [readInteger, hsign, hgroup] at read
  split at read
  · cases read
  · next hd =>
    split at read
    · cases read
    · split at read
      · next hr =>
        subst hr
        exact ⟨negative, body, ds, rfl, hgroup, fun he => hd (.inl he),
          (IntegerReading.number.inj read).symm⟩
      · cases read

/-- An integer is a real number too, unless it is too large: the double next to it. -/
theorem finiteReal?_of_integer? {s : String} {n : Int} (h : integer? s = some n) :
    ∃ negative, finiteReal? s = (nearest? n.natAbs 1).map (signed negative) := by
  obtain ⟨negative, body, ds, hsign, hgroup, hd, hn⟩ := integer?_eq_some h
  have size : n.natAbs = ofDigits ds := by
    rw [hn]
    split <;> simp
  have read : real? (trim s) = some (signed negative ((nearest? n.natAbs 1).getD infinity)) := by
    rw [real?, hsign, size, ← nearestDecimal_zero]
    simp only [magnitude?_of_digits hgroup hd, Option.map_some]
  refine ⟨negative, ?_⟩
  rw [finiteReal?, read]
  cases hx : nearest? n.natAbs 1 with
  | none =>
    have infinite : (signed negative infinity).isFinite = false := by cases negative <;> decide
    simp [infinite]
  | some x => simp [isFinite_signed negative (isFinite_of_nearest? hx)]

end Numeral

namespace Builtin

/-- A classification of texts holds of one. -/
def Holds (f : Builtin) (s : String) : Prop := f.call [.string s] = .ok (.bool true)

/-- A conversion of texts gives a value for one. -/
def Converts (f : Builtin) (s : String) : Prop := ∃ v, f.call [.string s] = .ok v

/-- A text is converted to an integer that is rounded beyond the largest double. -/
def Oversized (s : String) : Prop :=
  ∃ n, stoi.call [.string s] = .ok (.integer n) ∧ Number.tooLarge ≤ n.natAbs

variable {s : String}

theorem holds_isNumber_iff : Holds isNumber s ↔ (Numeral.finiteReal? s).isSome = true := by
  change Except.ok (Value.bool _) = Except.ok (Value.bool true) ↔ _
  rw [Except.ok.injEq, Value.bool.injEq]

theorem holds_isInteger_iff : Holds isInteger s ↔ (Numeral.integer? s).isSome = true := by
  change Except.ok (Value.bool _) = Except.ok (Value.bool true) ↔ _
  rw [Except.ok.injEq, Value.bool.injEq]

theorem holds_isDouble_iff : Holds isDouble s ↔
    (Numeral.integer? s).isNone = true ∧ (Numeral.finiteReal? s).isSome = true := by
  change Except.ok (Value.bool _) = Except.ok (Value.bool true) ↔ _
  rw [Except.ok.injEq, Value.bool.injEq, Bool.and_eq_true]

theorem stoi_eq_ok_iff {v : Value} : stoi.call [.string s] = .ok v ↔
    ∃ n, Numeral.integer? s = some n ∧ v = .integer n := by
  rw [call_string]
  simp only [onStrings]
  cases Numeral.integer? s with
  | none => simp
  | some n => simp [eq_comm]

theorem stof_eq_ok_iff {v : Value} : stof.call [.string s] = .ok v ↔
    ∃ x, Numeral.finiteReal? s = some x ∧ v = .double x := by
  rw [call_string]
  simp only [onStrings]
  cases Numeral.finiteReal? s with
  | none => simp
  | some x => simp [eq_comm]

theorem converts_stoi_iff : Converts stoi s ↔ (Numeral.integer? s).isSome = true := by
  simp only [Converts, stoi_eq_ok_iff, Option.isSome_iff_exists]
  exact ⟨fun ⟨_, n, h, _⟩ => ⟨n, h⟩, fun ⟨n, h⟩ => ⟨_, n, h, rfl⟩⟩

theorem converts_stof_iff : Converts stof s ↔ (Numeral.finiteReal? s).isSome = true := by
  simp only [Converts, stof_eq_ok_iff, Option.isSome_iff_exists]
  exact ⟨fun ⟨_, x, h, _⟩ => ⟨x, h⟩, fun ⟨x, h⟩ => ⟨_, x, h, rfl⟩⟩

theorem oversized_iff : Oversized s ↔
    ∃ n, Numeral.integer? s = some n ∧ Number.tooLarge ≤ n.natAbs := by
  simp only [Oversized, stoi_eq_ok_iff]
  constructor
  · rintro ⟨n, ⟨m, hm, hn⟩, hl⟩
    cases hn
    exact ⟨n, hm, hl⟩
  · rintro ⟨n, hn, hl⟩
    exact ⟨n, ⟨n, hn, rfl⟩, hl⟩

/-- What is converted to an integer is converted to a double too, unless it is oversized. -/
theorem finiteReal?_isSome_iff (h : (Numeral.integer? s).isSome = true) :
    (Numeral.finiteReal? s).isSome = true ↔ ¬Oversized s := by
  obtain ⟨n, hn⟩ := Option.isSome_iff_exists.1 h
  obtain ⟨negative, hr⟩ := Numeral.finiteReal?_of_integer? hn
  have size : Oversized s ↔ Number.tooLarge ≤ n.natAbs := by
    rw [oversized_iff, hn]
    simp
  rw [hr, Option.isSome_map, size, ← Decimal.nearest?_eq_none_iff, Option.isSome_iff_ne_none]

/-- What is converted to an oversized integer counts as an integer, but not as a number. -/
theorem classified_of_oversized (h : Oversized s) :
    Holds isInteger s ∧ ¬Holds isDouble s ∧ ¬Holds isNumber s ∧ ¬Converts stof s := by
  obtain ⟨n, hi, -⟩ := oversized_iff.1 h
  have unread := mt (finiteReal?_isSome_iff (s := s) (by rw [hi]; rfl)).1 (not_not_intro h)
  rw [holds_isInteger_iff, holds_isDouble_iff, holds_isNumber_iff, converts_stof_iff]
  exact ⟨by rw [hi]; rfl, fun hd => unread hd.2, unread, unread⟩

/-- A conversion gives a value just where the classification beside it holds. Every text is an
integer, a double or no number, and what is converted to an integer is converted to a double; only
an oversized integer is no number, and is not converted to a double. -/
theorem numerals_classified (s : String) :
    (∀ f ∈ [isNumber, isInteger, isDouble], ∃ b, f.call [.string s] = .ok (.bool b)) ∧
    (Converts stoi s ↔ Holds isInteger s) ∧ (Converts stof s ↔ Holds isNumber s) ∧
    (¬Oversized s → (Holds isNumber s ↔ Xor (Holds isInteger s) (Holds isDouble s)) ∧
      (Converts stoi s → Converts stof s)) ∧
    (Oversized s → Holds isInteger s ∧ ¬Holds isDouble s ∧ ¬Holds isNumber s ∧
      ¬Converts stof s) := by
  refine ⟨?_, ?_, ?_, fun h => ?_, classified_of_oversized⟩
  · intro f hf
    simp only [List.mem_cons, List.not_mem_nil, or_false] at hf
    rcases hf with rfl | rfl | rfl <;> exact ⟨_, rfl⟩
  · rw [converts_stoi_iff, holds_isInteger_iff]
  · rw [converts_stof_iff, holds_isNumber_iff]
  · rw [converts_stoi_iff, converts_stof_iff, holds_isInteger_iff, holds_isNumber_iff,
      holds_isDouble_iff]
    cases hi : Numeral.integer? s with
    | none => simp [Xor]
    | some n =>
      have number := (finiteReal?_isSome_iff (by rw [hi]; rfl)).2 h
      simp [Xor, number]

/-- The numeral of a power of ten. -/
def powerNumeral (k : Nat) : String := toString (Nat.pow 10 k : Int)

/-- From some power of ten on, an integer that can be written is too large for a double. -/
theorem oversized_powerNumeral {k : Nat} (hl : 309 ≤ k) (hk : k < Numeral.digitLimit) :
    Oversized (powerNumeral k) := by
  have written : Numeral.isWritable (Nat.pow 10 k) = true :=
    Numeral.isWritable_of_lt (Nat.pow_lt_pow_right (by decide) (Nat.lt_succ_self k)) hk
  have none : ∀ c ∈ "".toList, Text.isBlank c = true := by simp
  have read := Numeral.integer?_written written none none
  rw [String.empty_append, String.append_empty] at read
  exact oversized_iff.2 ⟨_, read, Number.tooLarge_le_pow hl⟩

theorem numerals_classified_grouped :
    (¬Oversized "1_0" ∧
      (Holds isNumber "1_0" ↔ Xor (Holds isInteger "1_0") (Holds isDouble "1_0")) ∧
      (Converts stoi "1_0" → Converts stof "1_0")) ∧
    Oversized (powerNumeral 309) ∧
      Holds isInteger (powerNumeral 309) ∧ ¬Holds isDouble (powerNumeral 309) ∧
      ¬Holds isNumber (powerNumeral 309) ∧ ¬Converts stof (powerNumeral 309) := by
  have small : ¬Oversized "1_0" := by
    have read : Numeral.integer? "1_0" = some 10 := by decide
    rw [oversized_iff, read]
    rintro ⟨n, hn, hl⟩
    cases hn
    exact absurd hl (Nat.not_le.2 (Number.lt_tooLarge (by decide)))
  have large : Oversized (powerNumeral 309) := oversized_powerNumeral (by decide) (by decide)
  exact ⟨⟨small, (numerals_classified "1_0").2.2.2.1 small⟩, large,
    (numerals_classified (powerNumeral 309)).2.2.2.2 large⟩

/-- An integer beyond the largest double is an integer and not a double, and yet it is no number,
and is not converted to a double. -/
theorem numerals_classified_oversized :
    ¬(Holds isNumber (powerNumeral 309) ↔
      Xor (Holds isInteger (powerNumeral 309)) (Holds isDouble (powerNumeral 309))) ∧
    Converts stoi (powerNumeral 309) ∧ ¬Converts stof (powerNumeral 309) := by
  have large : Oversized (powerNumeral 309) := oversized_powerNumeral (by decide) (by decide)
  obtain ⟨integer, double, number, unread⟩ := classified_of_oversized large
  exact ⟨fun h => number (h.2 (.inl ⟨integer, double⟩)),
    converts_stoi_iff.2 (holds_isInteger_iff.1 integer), unread⟩

end Builtin

end DialogScript
