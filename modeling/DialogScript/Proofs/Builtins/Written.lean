import DialogScript.Proofs.Typing.Builtins

/-!
Integers survive the trip through text. The text of an integer is a sign and its decimal digits, so
nothing is trimmed from it, the digits are read to its end, and they stand for the integer they were
written for. Blanks around it are all trimmed away first.
-/

namespace DialogScript

namespace Text

/-! ## Trimming -/

variable {p : Char → Bool} {front body back : List Char}

theorem trimBy_of_none (h : ∀ c ∈ body, p c = false) : trimBy p body = body := by
  have kept : ∀ s : List Char, (∀ c ∈ s, p c = false) → s.dropWhile p = s := by
    intro s hs
    cases s with
    | nil => rfl
    | cons c rest => exact List.dropWhile_cons_of_neg (by simp [hs c List.mem_cons_self])
  have reversed : body.reverse.dropWhile p = body.reverse :=
    kept _ fun c hc => h c (List.mem_reverse.1 hc)
  rw [trimBy, kept body h, reversed, List.reverse_reverse]

/-- What is trimmed away may as well not be there. -/
theorem trimBy_surrounded (hfront : ∀ c ∈ front, p c = true) (hback : ∀ c ∈ back, p c = true) :
    trimBy p (front ++ body ++ back) = trimBy p body := by
  have last : ∀ s : List Char,
      ((s ++ back).reverse.dropWhile p).reverse = (s.reverse.dropWhile p).reverse := by
    intro s
    have skipped : ∀ c ∈ back.reverse, p c = true := fun c hc => hback c (List.mem_reverse.1 hc)
    rw [List.reverse_append, List.dropWhile_append_of_pos skipped]
  have gone : back.dropWhile p = [] := by
    rw [← List.append_nil back, List.dropWhile_append_of_pos hback, List.dropWhile_nil]
  rw [trimBy, trimBy, List.append_assoc, List.dropWhile_append_of_pos hfront,
    List.dropWhile_append]
  cases hb : body.dropWhile p with
  | nil => simp [gone]
  | cons c rest => exact last (c :: rest)

theorem trim_surrounded {before text after : String} (hb : ∀ c ∈ before.toList, isBlank c = true)
    (ha : ∀ c ∈ after.toList, isBlank c = true) : trim (before ++ text ++ after) = trim text := by
  rw [trim, trim, String.toList_append, String.toList_append, trimBy_surrounded hb ha]

theorem trim_of_none {text : String} (h : ∀ c ∈ text.toList, isBlank c = false) :
    trim text = text := by
  rw [trim, trimBy_of_none h, String.ofList_toList]

end Text

namespace Numeral

open DialogScript.Text

/-! ## Digits -/

theorem isBlank_of_isDigit {c : Char} (h : c.isDigit = true) : isBlank c = false := by
  simp only [Char.isDigit, Bool.and_eq_true, decide_eq_true_eq] at h
  have low : 48 ≤ c.toNat := h.1
  have high : c.toNat ≤ 57 := h.2
  simp only [isBlank, Bool.or_eq_false_iff, Bool.and_eq_false_iff, decide_eq_false_iff_not,
    beq_eq_false_iff_ne]
  omega

theorem digitGroup_cons {c : Char} {d : Nat} {rest : List Char} (hc : digitValue? c = some d)
    (hr : rest.head? ≠ some '_') :
    digitGroup (c :: rest) = (d :: (digitGroup rest).1, (digitGroup rest).2) := by
  rw [digitGroup.eq_def]
  dsimp only
  rw [hc]
  dsimp only
  split
  · exact absurd rfl hr
  · rfl

/-- Decimal digits are read to the last. -/
theorem digitGroup_of_isDigit {cs : List Char} (h : ∀ c ∈ cs, c.isDigit = true) :
    digitGroup cs = (cs.map fun c => c.toNat - 0x30, []) := by
  induction cs with
  | nil => rfl
  | cons c rest ih =>
    have hc : digitValue? c = some (c.toNat - 0x30) := if_pos (h c List.mem_cons_self)
    have hr : rest.head? ≠ some '_' := by
      intro hu
      exact absurd (h '_' (List.mem_cons_of_mem c (List.mem_of_head? hu))) (by decide)
    rw [digitGroup_cons hc hr, ih fun d hd => h d (List.mem_cons_of_mem c hd), List.map_cons]

theorem ofDigits_map (cs : List Char) :
    ofDigits (cs.map fun c => c.toNat - 0x30) = Nat.ofDigitChars 10 cs 0 := by
  rw [ofDigits, List.foldl_map]
  rfl

theorem sign_of_isDigit {cs : List Char} (h : ∀ c ∈ cs, c.isDigit = true) :
    sign cs = (false, cs) := by
  unfold sign
  split
  · exact absurd (h '-' List.mem_cons_self) (by decide)
  · exact absurd (h '+' List.mem_cons_self) (by decide)
  · rfl

/-! ## Written integers -/

/-- The text of an integer is a minus where it is negative, and the digits of its magnitude. -/
theorem toList_toString (n : Int) :
    (toString n).toList = (if n < 0 then ['-'] else []) ++ Nat.toDigits 10 n.natAbs := by
  cases n with
  | ofNat m =>
    rw [if_neg (by simp), List.nil_append]
    exact Nat.toList_repr
  | negSucc m =>
    have written : toString (Int.negSucc m) = "-" ++ Nat.repr (m + 1) := rfl
    rw [if_pos (Int.negSucc_lt_zero m), written, String.toList_append, Nat.toList_repr]
    rfl

theorem sign_toString (n : Int) :
    sign (toString n).toList = (decide (n < 0), Nat.toDigits 10 n.natAbs) := by
  rw [toList_toString]
  by_cases hn : n < 0
  · rw [if_pos hn, decide_eq_true hn]
    rfl
  · rw [if_neg hn, decide_eq_false hn, List.nil_append]
    exact sign_of_isDigit fun c hc => Nat.isDigit_of_mem_toDigits (by decide) (by decide) hc

theorem digitGroup_toDigits (n : Nat) :
    digitGroup (Nat.toDigits 10 n) = ((Nat.toDigits 10 n).map fun c => c.toNat - 0x30, []) :=
  digitGroup_of_isDigit fun _ hc => Nat.isDigit_of_mem_toDigits (by decide) (by decide) hc

theorem ofDigits_toDigits (n : Nat) :
    ofDigits ((Nat.toDigits 10 n).map fun c => c.toNat - 0x30) = n := by
  rw [ofDigits_map]
  exact Nat.ofDigitChars_toDigits (by decide) (by decide)

theorem readInteger_toString {n : Int} (h : isWritable n = true) :
    readInteger (toString n).toList = .number n := by
  have value : (if decide (n < 0) = true then -(n.natAbs : Int) else n.natAbs) = n := by
    by_cases hn : n < 0
    · rw [if_pos (decide_eq_true hn)]
      omega
    · rw [if_neg (by simpa using hn)]
      omega
  have fits : ¬digitLimit < ((Nat.toDigits 10 n.natAbs).map fun c => c.toNat - 0x30).length := by
    rw [List.length_map]
    exact Nat.not_lt.2 (of_decide_eq_true h)
  simp only [readInteger, sign_toString, digitGroup_toDigits, ofDigits_toDigits, if_neg fits, value]
  rw [if_neg (by simp [Nat.toDigits_ne_nil]), if_pos trivial]

theorem isBlank_toString {n : Int} {c : Char} (hc : c ∈ (toString n).toList) :
    isBlank c = false := by
  rw [toList_toString, List.mem_append] at hc
  rcases hc with hsign | hdigit
  · split at hsign
    · rw [List.mem_singleton.1 hsign]
      decide
    · cases hsign
  · exact isBlank_of_isDigit (Nat.isDigit_of_mem_toDigits (by decide) (by decide) hdigit)

theorem isWritable_of_lt {n : Int} {k : Nat} (hn : n.natAbs < Nat.pow 10 k) (hk : k ≤ digitLimit) :
    isWritable n = true := by
  rw [isWritable_iff]
  generalize digitLimit = limit at hk
  exact Nat.lt_of_lt_of_le hn (Nat.pow_le_pow_right (by decide) hk)

/-- A written integer is read back, with blanks around it or without. -/
theorem integer?_written {n : Int} (h : isWritable n = true) {before after : String}
    (hb : ∀ c ∈ before.toList, isBlank c = true) (ha : ∀ c ∈ after.toList, isBlank c = true) :
    integer? (before ++ toString n ++ after) = some n := by
  have plain : trimBy isSpacing (toString n).toList = (toString n).toList :=
    trimBy_of_none fun c hc => by rw [isSpacing, isBlank_toString hc, Bool.false_and]
  rw [integer?, trim_surrounded hb ha, trim_of_none fun c hc => isBlank_toString hc, integer, plain,
    readInteger_toString h]

end Numeral

namespace Builtin

/-- An integer that can be written is read back from its text, whatever blanks stand around it, and
the text counts as an integer and not as a double. -/
theorem stoi_of_scalarText (n : Int) (h : Numeral.isWritable n = true) (before after : String)
    (hb : ∀ c ∈ before.toList, Text.isBlank c = true)
    (ha : ∀ c ∈ after.toList, Text.isBlank c = true) :
    ∃ text, (Value.integer n).scalarText? = .ok (some text) ∧
      stoi.call [.string (before ++ text ++ after)] = .ok (.integer n) ∧
      isInteger.call [.string (before ++ text ++ after)] = .ok (.bool true) ∧
      isDouble.call [.string (before ++ text ++ after)] = .ok (.bool false) := by
  have read := Numeral.integer?_written h hb ha
  refine ⟨toString n, ?_, ?_, ?_, ?_⟩
  · rw [Value.scalarText?, Number.text, if_pos h]
    rfl
  · rw [call_string]
    simp only [onStrings, read]
  · rw [call_string]
    simp only [onStrings, read, Option.isSome_some]
  · rw [call_string]
    simp only [onStrings, read, Option.isNone_some, Bool.false_and]

theorem stoi_of_scalarText_spaced :
    Numeral.isWritable (-40) = true ∧ (∀ c ∈ "\t ".toList, Text.isBlank c = true) ∧
    (∀ c ∈ "\u3000\n".toList, Text.isBlank c = true) ∧
    ∃ text, (Value.integer (-40)).scalarText? = .ok (some text) ∧
      stoi.call [.string ("\t " ++ text ++ "\u3000\n")] = .ok (.integer (-40)) ∧
      isInteger.call [.string ("\t " ++ text ++ "\u3000\n")] = .ok (.bool true) ∧
      isDouble.call [.string ("\t " ++ text ++ "\u3000\n")] = .ok (.bool false) := by
  have written : Numeral.isWritable (-40) = true :=
    Numeral.isWritable_of_lt (k := 2) (by decide) (by decide)
  have front : ∀ c ∈ "\t ".toList, Text.isBlank c = true :=
    List.all_eq_true.1 (by decide)
  have back : ∀ c ∈ "\u3000\n".toList, Text.isBlank c = true :=
    List.all_eq_true.1 (by decide)
  exact ⟨written, front, back, stoi_of_scalarText (-40) written _ _ front back⟩

end Builtin

end DialogScript
