import DialogScript.Proofs.Builtins.Searching
import DialogScript.Proofs.Builtins.Written

/-!
Trimming and upper case. A blank is its own upper case, and the upper case of any other character
has characters but no blank. So it makes no difference whether a text is trimmed before or after it
is put into upper case, and a text whose upper case has nothing to trim has nothing to trim itself.
-/

namespace DialogScript.Text

/-! ## Blanks in upper case -/

/-- The codes of the blanks. -/
def blankCodes : List Nat :=
  [0x09, 0x0A, 0x0B, 0x0C, 0x0D, 0x1C, 0x1D, 0x1E, 0x1F, 0x20, 0x85, 0xA0, 0x1680, 0x2000, 0x2001,
    0x2002, 0x2003, 0x2004, 0x2005, 0x2006, 0x2007, 0x2008, 0x2009, 0x200A, 0x2028, 0x2029, 0x202F,
    0x205F, 0x3000]

theorem isBlank_iff {c : Char} : isBlank c = true ↔ c.toNat ∈ blankCodes := by
  simp only [isBlank, blankCodes, Bool.or_eq_true, Bool.and_eq_true, decide_eq_true_eq,
    beq_iff_eq, List.mem_cons, List.not_mem_nil, or_false]
  omega

/-- Whether no partner of a row has one of some codes. -/
def CaseRow.avoids (row : CaseRow) (codes : List Nat) : Bool :=
  codes.all fun n => decide ((n : Int) < row.first + row.shift ∨ row.last + row.shift < n)

theorem upperRows_avoid : ∀ row ∈ upperRows, row.avoids blankCodes = true :=
  List.all_eq_true.1 (by decide)

/-- The character of a code that is none has the code zero. -/
theorem toNat_ofNat (n : Nat) : (Char.ofNat n).toNat = n ∨ (Char.ofNat n).toNat = 0 := by
  by_cases h : n.isValidChar
  · rw [Char.ofNat, dif_pos h]
    exact .inl rfl
  · rw [Char.ofNat, dif_neg h]
    exact .inr rfl

theorem isBlank_ofNat {n : Nat} (h : n ∉ blankCodes) : isBlank (Char.ofNat n) = false := by
  rw [Bool.eq_false_iff, Ne, isBlank_iff]
  rcases toNat_ofNat n with hn | hn
  · rwa [hn]
  · rw [hn]
    decide

/-- The partner of a character in a row is no blank, unless it is the character itself. -/
theorem isBlank_apply {rows : List CaseRow} (havoid : ∀ row ∈ rows, row.avoids blankCodes = true)
    {c : Char} (hc : isBlank c = false) : isBlank (CaseRow.apply rows c) = false := by
  rw [CaseRow.apply]
  split
  · next row hrow =>
    have hmem := List.mem_of_find?_eq_some hrow
    have hcovers := List.find?_some hrow
    simp only [CaseRow.covers, Bool.and_eq_true, decide_eq_true_eq] at hcovers
    refine isBlank_ofNat fun hblank => ?_
    have haway := List.all_eq_true.1 (havoid row hmem) _ hblank
    rw [decide_eq_true_eq] at haway
    -- A shift below zero is cut off there, and zero is no blank.
    have positive : ∀ n ∈ blankCodes, 0 < n := by decide
    have hpositive := positive _ hblank
    omega
  · exact hc

/-- A blank is its own upper case. -/
theorem upperChar_of_isBlank {c : Char} (h : isBlank c = true) : upperChar c = [c] := by
  have listed : ∀ n ∈ blankCodes, upperChar (Char.ofNat n) = [Char.ofNat n] := by decide
  rw [← Char.ofNat_toNat c]
  exact listed _ (isBlank_iff.1 h)

/-- Upper case makes no blanks. -/
theorem isBlank_upperChar {c d : Char} (h : isBlank c = false) (hd : d ∈ upperChar c) :
    isBlank d = false := by
  have ascii : ∀ n < 0x80, isBlank (Char.ofNat n).toUpper = isBlank (Char.ofNat n) := by decide
  have listed : ∀ e ∈ upperSpecials, ∀ n ∈ e.2, n ∉ blankCodes := by decide
  rw [upperChar] at hd
  split at hd
  · next hascii =>
    have hsame := ascii c.toNat hascii
    rw [Char.ofNat_toNat] at hsame
    rw [List.mem_singleton.1 hd, hsame, h]
  · split at hd
    · next codes hcodes =>
      obtain ⟨n, hn, rfl⟩ := List.mem_map.1 hd
      exact isBlank_ofNat (listed _ (Keyed.mem_of_lookup hcodes) n hn)
    · rw [List.mem_singleton.1 hd]
      exact isBlank_apply upperRows_avoid h

/-! ## Trimming and upper case -/

variable {p : Char → Bool} {f : Char → List Char}

/-- What replaces characters one by one may be done after a front is dropped, if it keeps what is
dropped and puts something else in the place of what is not. -/
theorem dropWhile_flatMap (hkeep : ∀ c, p c = true → f c = [c])
    (hother : ∀ c, p c = false → f c ≠ [] ∧ ∀ d ∈ f c, p d = false) (s : List Char) :
    (s.flatMap f).dropWhile p = (s.dropWhile p).flatMap f := by
  induction s with
  | nil => rfl
  | cons c rest ih =>
    cases hc : p c with
    | true =>
      rw [List.flatMap_cons, hkeep c hc, List.dropWhile_cons_of_pos hc]
      exact (List.dropWhile_cons_of_pos hc).trans ih
    | false =>
      obtain ⟨hsome, hnone⟩ := hother c hc
      obtain ⟨d, others, hd⟩ := List.exists_cons_of_ne_nil hsome
      have hp : p d = false := hnone d (hd ▸ List.mem_cons_self)
      rw [List.dropWhile_cons_of_neg (by simp [hc]), List.flatMap_cons, hd]
      exact List.dropWhile_cons_of_neg (by simp [hp])

theorem trimBy_flatMap (hkeep : ∀ c, p c = true → f c = [c])
    (hother : ∀ c, p c = false → f c ≠ [] ∧ ∀ d ∈ f c, p d = false) (s : List Char) :
    trimBy p (s.flatMap f) = (trimBy p s).flatMap f := by
  have back := dropWhile_flatMap (f := List.reverse ∘ f) (p := p)
    (fun c hc => by rw [Function.comp_apply, hkeep c hc]; rfl)
    (fun c hc => ⟨fun hn => (hother c hc).1 (List.reverse_eq_nil_iff.1 hn),
      fun d hd => (hother c hc).2 d (List.mem_reverse.1 hd)⟩)
  -- The back is dropped from the reversed text, in which the replacements are reversed, too.
  rw [trimBy, trimBy, dropWhile_flatMap hkeep hother, List.reverse_flatMap, back,
    List.reverse_flatMap]
  have twice : List.reverse ∘ List.reverse ∘ f = f := funext fun c => List.reverse_reverse (f c)
  rw [twice]

/-- It makes no difference whether a text is trimmed before or after it is put into upper case. -/
theorem upper_trim (s : String) : upper (trim s) = trim (upper s) := by
  have other : ∀ c, isBlank c = false → upperChar c ≠ [] ∧ ∀ d ∈ upperChar c, isBlank d = false :=
    fun c hc => ⟨upperChar_ne_nil c, fun _ hd => isBlank_upperChar hc hd⟩
  rw [trim, trim, toList_upper, upperChars, trimBy_flatMap (fun _ => upperChar_of_isBlank) other,
    upper, String.toList_ofList]
  rfl

/-- A text is what trimming leaves of it, between blanks. -/
theorem exists_trimBy (s : List Char) : ∃ before after, s = before ++ trimBy p s ++ after ∧
    (∀ c ∈ before, p c = true) ∧ ∀ c ∈ after, p c = true := by
  refine ⟨s.takeWhile p, ((s.dropWhile p).reverse.takeWhile p).reverse, ?_, ?_, ?_⟩
  · rw [trimBy, List.append_assoc, ← List.reverse_append, List.takeWhile_append_dropWhile,
      List.reverse_reverse, List.takeWhile_append_dropWhile]
  · exact List.all_eq_true.1 List.all_takeWhile
  · exact fun c hc => List.all_eq_true.1 List.all_takeWhile c (List.mem_reverse.1 hc)

theorem exists_trim (s : String) : ∃ before after, s = before ++ trim s ++ after ∧
    (∀ c ∈ before.toList, isBlank c = true) ∧ ∀ c ∈ after.toList, isBlank c = true := by
  obtain ⟨before, after, hs, hbefore, hafter⟩ := exists_trimBy (p := isBlank) s.toList
  refine ⟨String.ofList before, String.ofList after, ?_, ?_, ?_⟩
  · rw [trim, ← String.ofList_append, ← String.ofList_append, ← hs, String.ofList_toList]
  · rwa [String.toList_ofList]
  · rwa [String.toList_ofList]

theorem trim_trim (s : String) : trim (trim s) = trim s := by
  obtain ⟨before, after, hs, hbefore, hafter⟩ := exists_trim s
  calc trim (trim s) = trim (before ++ trim s ++ after) := (trim_surrounded hbefore hafter).symm
    _ = trim s := by rw [← hs]

/-- Upper case leaves what there is to trim. -/
theorem trim_upper_eq_iff {s : String} : trim (upper s) = upper s ↔ trim s = s := by
  refine ⟨fun h => ?_, fun h => by rw [← upper_trim, h]⟩
  have hsame : upper (trim s) = upper s := (upper_trim s).trans h
  obtain ⟨before, after, hs, -⟩ := exists_trim s
  -- No character vanishes in upper case, so the blanks around what is left show in the lengths.
  have whole := congrArg (fun text => (upper text).toList.length) hs
  have kept := congrArg (fun text => text.toList.length) hsame
  simp only [toList_upper, String.toList_append, upperChars_append, List.length_append]
    at whole kept
  have hbefore := length_le_upperChars before.toList
  have hafter := length_le_upperChars after.toList
  have empty : before.toList = [] ∧ after.toList = [] :=
    ⟨List.eq_nil_of_length_eq_zero (by omega), List.eq_nil_of_length_eq_zero (by omega)⟩
  rw [String.toList_eq_nil_iff, String.toList_eq_nil_iff] at empty
  obtain ⟨rfl, rfl⟩ := empty
  simpa using hs.symm

end DialogScript.Text
