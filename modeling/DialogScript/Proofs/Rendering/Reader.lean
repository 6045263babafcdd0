import DialogScript.Tree.Expr
import DialogScript.ValueType

/-!
A reader for the text of expressions. A postfix binds to all that stands before it, so the reader
keeps what it has read of an expression while it looks for one more index or key.
-/

namespace DialogScript

/-- Readings with more and more fuel that all give the same from some amount on. -/
def Reads {α : Type} (f : Nat → Option α) (a : α) : Prop :=
  ∃ n, ∀ fuel, n ≤ fuel → f fuel = some a

namespace Reads

variable {α : Type} {f : Nat → Option α} {a b : α}

theorem unique (ha : Reads f a) (hb : Reads f b) : a = b := by
  obtain ⟨n, hn⟩ := ha
  obtain ⟨m, hm⟩ := hb
  have hboth := (hn (n + m) (Nat.le_add_right n m)).symm.trans (hm (n + m) (Nat.le_add_left m n))
  exact Option.some.inj hboth

/-- One unit of fuel is spent on a step. -/
theorem after (n : Nat) (h : ∀ fuel, n ≤ fuel → f (fuel + 1) = some a) : Reads f a := by
  refine ⟨n + 1, fun fuel hfuel => ?_⟩
  obtain ⟨k, rfl⟩ : ∃ k, fuel = k + 1 := ⟨fuel - 1, by omega⟩
  exact h k (by omega)

end Reads

/-! ## The reader -/

namespace Reader

/-- The word that a text starts with, and what follows it. -/
def word (s : List Char) : List Char × List Char := (s.takeWhile isNameRest, s.dropWhile isNameRest)

/-- The text up to the next quote, and what follows the quote. -/
def quotedText (s : List Char) : List Char × List Char :=
  (s.takeWhile (· ≠ '"'), (s.dropWhile (· ≠ '"')).drop 1)

/-- An operator between blanks. -/
def operator : List Char → Option (Operator × List Char)
  | ' ' :: s =>
    let symbol := s.takeWhile (· ≠ ' ')
    (Operator.all.find? fun op => op.symbol.toList == symbol).map fun op =>
      (op, (s.dropWhile (· ≠ ' ')).drop 1)
  | _ => none

/-- The expression that a word is on its own. -/
def atom (w : List Char) : Option Expr :=
  match w with
  | [] => none
  | c :: _ =>
    if c.isDigit then some (.literal none (.integer (.number (Nat.ofDigitChars 10 w 0))))
    else if w = "TRUE".toList then some (.literal none (.bool true))
    else if w = "FALSE".toList then some (.literal none (.bool false))
    else some (.named none (String.ofList w))

mutual

/-- An expression at the start of a text, and what follows it. -/
def expr (s : List Char) (fuel : Nat) : Option (Expr × List Char) :=
  match fuel, s with
  | 0, _ => none
  | fuel + 1, '-' :: s =>
    (expr s fuel).bind fun (e, s) => some (.unary none .minus e, s)
  | fuel + 1, '(' :: s =>
    (expr s fuel).bind fun (left, s) =>
      (operator s).bind fun (op, s) =>
        (expr s fuel).bind fun (right, s) => accesses (.binary none left op right) (s.drop 1) fuel
  | fuel + 1, '"' :: s =>
    accesses (.literal none (.string (String.ofList (quotedText s).1))) (quotedText s).2 fuel
  | fuel + 1, s =>
    match (word s).2 with
    | '(' :: rest =>
      (args rest fuel).bind fun (es, rest) =>
        accesses (.call none (String.ofList (word s).1) es) rest fuel
    | rest => (atom (word s).1).bind fun e => accesses e rest fuel

/-- The arguments of a call, up to the closing bracket. -/
def args (s : List Char) (fuel : Nat) : Option (List Expr × List Char) :=
  match fuel, s with
  | 0, _ => none
  | _ + 1, ')' :: s => some ([], s)
  | fuel + 1, s =>
    (expr s fuel).bind fun (e, s) =>
      match s with
      | ',' :: ' ' :: s => (args s fuel).bind fun (es, s) => some (e :: es, s)
      | s => some ([e], s.drop 1)

/-- The indices and keys that follow an expression. -/
def accesses (e : Expr) (s : List Char) (fuel : Nat) : Option (Expr × List Char) :=
  match fuel, s with
  | 0, _ => none
  | fuel + 1, '[' :: s =>
    (expr s fuel).bind fun (i, s) => accesses (.index none e i) (s.drop 1) fuel
  | fuel + 1, '.' :: s => accesses (.entry none e (String.ofList (word s).1)) (word s).2 fuel
  | _ + 1, s => some (e, s)

end

/-! ## Single steps of the reader -/

/-- Whether a word ends where a text starts. -/
def endsWord : List Char → Bool
  | [] => true
  | c :: _ => !isNameRest c

/-- Whether an expression ends where a text starts, whatever it is. -/
def closes : List Char → Bool
  | [] => true
  | c :: _ => c == ' ' || c == ')' || c == ',' || c == ']'

theorem endsWord_of_closes {r : List Char} (h : closes r = true) : endsWord r = true := by
  cases r with
  | nil => rfl
  | cons c rest =>
    obtain ((rfl | rfl) | rfl) | rfl : ((c = ' ' ∨ c = ')') ∨ c = ',') ∨ c = ']' := by
      simpa [closes] using h
    all_goals rfl

theorem not_call_of_closes {r : List Char} (h : closes r = true) (rest : List Char) :
    r ≠ '(' :: rest := by
  rintro rfl
  cases h

/-- A word is read up to where it ends. -/
theorem word_append {w r : List Char} (hw : ∀ c ∈ w, isNameRest c = true)
    (hr : endsWord r = true) : word (w ++ r) = (w, r) := by
  have hrest : r.takeWhile isNameRest = [] ∧ r.dropWhile isNameRest = r := by
    cases r with
    | nil => exact ⟨rfl, rfl⟩
    | cons c rest =>
      have hc : isNameRest c = false := by simpa [endsWord] using hr
      simp [hc]
  unfold word
  rw [List.takeWhile_append_of_pos hw, List.dropWhile_append_of_pos hw, hrest.1, hrest.2,
    List.append_nil]

/-- A text without quotes is read up to the quote after it. -/
theorem quotedText_append {s : List Char} (hs : '"' ∉ s) (r : List Char) :
    quotedText (s ++ '"' :: r) = (s, r) := by
  have hs' : ∀ c ∈ s, decide (c ≠ '"') = true := by
    intro c hc
    refine decide_eq_true ?_
    rintro rfl
    exact hs hc
  unfold quotedText
  rw [List.takeWhile_append_of_pos hs', List.dropWhile_append_of_pos hs']
  simp

theorem operator_append (op : Operator) (r : List Char) :
    operator (' ' :: (op.symbol.toList ++ ' ' :: r)) = some (op, r) := by
  cases op <;> simp [operator, Operator.symbol, Operator.all]

/-- Nothing can be read where a bracket closes. -/
theorem expr_close (fuel : Nat) (s : List Char) : expr (')' :: s) fuel = none := by
  cases fuel with
  | zero => rfl
  | succ fuel => rfl

/-- A text that starts with a word is read word by word. -/
theorem expr_of_word {w : List Char} (hw : ∀ c ∈ w, isNameRest c = true) (hne : w ≠ [])
    (r : List Char) (fuel : Nat) :
    expr (w ++ r) (fuel + 1) = match (word (w ++ r)).2 with
      | '(' :: rest =>
        (args rest fuel).bind fun (es, rest) =>
          accesses (.call none (String.ofList (word (w ++ r)).1) es) rest fuel
      | rest => (atom (word (w ++ r)).1).bind fun e => accesses e rest fuel := by
  obtain ⟨c, ws, rfl⟩ := List.exists_cons_of_ne_nil hne
  have hc := hw c List.mem_cons_self
  rw [expr]
  all_goals
    rintro s hs
    cases hs
    revert hc
    decide

theorem expr_word {w r : List Char} (hw : ∀ c ∈ w, isNameRest c = true) (hne : w ≠ [])
    (hr : endsWord r = true) (hcall : ∀ rest, r ≠ '(' :: rest) (fuel : Nat) :
    expr (w ++ r) (fuel + 1) = (atom w).bind fun e => accesses e r fuel := by
  rw [expr_of_word hw hne, word_append hw hr]
  split
  · next h => exact absurd h (hcall _)
  · rfl

theorem expr_call {w : List Char} (hw : ∀ c ∈ w, isNameRest c = true) (hne : w ≠ [])
    (r : List Char) (fuel : Nat) :
    expr (w ++ '(' :: r) (fuel + 1) = (args r fuel).bind fun (es, rest) =>
      accesses (.call none (String.ofList w) es) rest fuel := by
  rw [expr_of_word hw hne, word_append hw rfl]
  rfl

theorem accesses_of_closes {r : List Char} (h : closes r = true) (e : Expr) (fuel : Nat) :
    accesses e r (fuel + 1) = some (e, r) := by
  rw [accesses]
  all_goals
    rintro s rfl
    cases h

theorem ne_close_of_expr {s rest : List Char} {e : Expr} {fuel : Nat}
    (h : expr s fuel = some (e, rest)) (t : List Char) : s ≠ ')' :: t := by
  rintro rfl
  rw [expr_close] at h
  cases h

theorem args_last {s r : List Char} {e : Expr} {fuel : Nat}
    (h : expr s fuel = some (e, ')' :: r)) : args s (fuel + 1) = some ([e], r) := by
  rw [args, h]
  · rfl
  · exact fun t => ne_close_of_expr h t

theorem args_more {s r : List Char} {e : Expr} {fuel : Nat}
    (h : expr s fuel = some (e, ',' :: ' ' :: r)) :
    args s (fuel + 1) = (args r fuel).bind fun (es, rest) => some (e :: es, rest) := by
  rw [args, h]
  · rfl
  · exact fun t => ne_close_of_expr h t

/-! ## Words -/

theorem isNameRest_of_isNameStart {c : Char} (h : isNameStart c = true) : isNameRest c = true := by
  unfold isNameStart at h
  unfold isNameRest Char.isAlphanum
  cases hc : c.isAlpha with
  | true => simp
  | false =>
    rw [hc, Bool.false_or] at h
    rw [h, Bool.or_true]

theorem not_isDigit_of_isNameStart {c : Char} (h : isNameStart c = true) : c.isDigit = false := by
  unfold isNameStart Char.isAlpha Char.isUpper Char.isLower at h
  unfold Char.isDigit
  simp only [Bool.or_eq_true, Bool.and_eq_true, decide_eq_true_eq, ge_iff_le,
    UInt32.le_iff_toNat_le] at h
  simp only [Bool.and_eq_false_iff, decide_eq_false_iff_not, ge_iff_le, UInt32.le_iff_toNat_le]
  rcases h with (h | h) | rfl
  · have h' : 65 ≤ c.val.toNat := h.1
    show ¬ 48 ≤ c.val.toNat ∨ ¬ c.val.toNat ≤ 57
    omega
  · have h' : 97 ≤ c.val.toNat := h.1
    show ¬ 48 ≤ c.val.toNat ∨ ¬ c.val.toNat ≤ 57
    omega
  · decide

/-- The characters of an identifier are a word that does not start with a digit. -/
theorem identifier_word {name : String} (h : isIdentifier name = true) :
    (∀ c ∈ name.toList, isNameRest c = true) ∧
      ∃ c rest, name.toList = c :: rest ∧ c.isDigit = false := by
  unfold isIdentifier at h
  split at h
  · cases h
  · next c rest hname =>
    obtain ⟨hc, hrest⟩ := Bool.and_eq_true_iff.1 h
    rw [hname]
    refine ⟨List.forall_mem_cons.2 ⟨isNameRest_of_isNameStart hc, ?_⟩, c, rest, rfl, ?_⟩
    · exact List.all_eq_true.1 hrest
    · exact not_isDigit_of_isNameStart hc

theorem identifier_ne_nil {name : String} (h : isIdentifier name = true) : name.toList ≠ [] := by
  obtain ⟨-, c, rest, hname, -⟩ := identifier_word h
  rw [hname]
  exact List.cons_ne_nil c rest

theorem digits_word (n : Nat) : ∀ c ∈ Nat.toDigits 10 n, isNameRest c = true := by
  intro c hc
  have hdigit := Nat.isDigit_of_mem_toDigits (by decide) (by decide) hc
  unfold isNameRest Char.isAlphanum
  rw [hdigit, Bool.or_true]
  rfl

theorem atom_digits (n : Nat) :
    atom (Nat.toDigits 10 n) = some (.literal none (.integer (.number n))) := by
  have hvalue : Nat.ofDigitChars 10 (Nat.toDigits 10 n) 0 = n :=
    Nat.ofDigitChars_toDigits (by decide) (by decide)
  obtain ⟨c, rest, hdigits⟩ := List.exists_cons_of_ne_nil (Nat.toDigits_ne_nil (b := 10) (n := n))
  have hc : c.isDigit = true := by
    refine Nat.isDigit_of_mem_toDigits (b := 10) (n := n) (by decide) (by decide) ?_
    rw [hdigits]
    exact List.mem_cons_self
  rw [hdigits] at hvalue ⊢
  simp only [atom, hc, if_true, hvalue]

theorem atom_name {name : String} (h : isIdentifier name = true) (ht : name ≠ "TRUE")
    (hf : name ≠ "FALSE") : atom name.toList = some (.named none name) := by
  obtain ⟨-, c, rest, hname, hc⟩ := identifier_word h
  have ht' : c :: rest ≠ "TRUE".toList := by
    rw [← hname]
    exact fun heq => ht (String.toList_inj.1 heq)
  have hf' : c :: rest ≠ "FALSE".toList := by
    rw [← hname]
    exact fun heq => hf (String.toList_inj.1 heq)
  have hback : String.ofList (c :: rest) = name := by
    rw [← hname, String.ofList_toList]
  rw [hname]
  simp only [atom, hc, Bool.false_eq_true, if_false, ht', hf', hback]

end Reader

end DialogScript
