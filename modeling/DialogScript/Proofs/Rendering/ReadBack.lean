import DialogScript.Proofs.Rendering.Reader
import DialogScript.Proofs.Rendering.Written

/-!
Reading expressions back from their text. The reader takes the text of a readable expression apart
again, however many digits its integers have and whatever follows it; so two such expressions with
the same text differ at most in the places where their parts stand.
-/

namespace DialogScript

namespace Expr

/-! ## Readable expressions -/

/-- Whether an expression is a unary minus. -/
def isUnary : Expr → Bool
  | unary .. => true
  | _ => false

mutual

/-- Whether the text of an expression can be read back: its integers are numbers that are not
negative, its texts have no quotes, its names are identifiers other than the truth values, it has no
doubles, constants, members and empty slots, and no index or key follows a unary minus. A truth
value in the place of a number is written like a name. -/
def isReadable : Expr → Bool
  | literal _ (.integer (.number n)) => 0 ≤ n
  | literal _ (.string s) => !s.toList.contains '"'
  | literal _ (.bool _) => true
  | named _ name => isIdentifier name && name != "TRUE" && name != "FALSE"
  | unary _ op operand => op == .minus && isReadable operand
  | binary _ left _ right => isReadable left && isReadable right
  | call _ function args => isIdentifier function && allReadable args
  | index _ base i => !base.isUnary && isReadable base && isReadable i
  | entry _ map key => !map.isUnary && isReadable map && isIdentifier key
  | _ => false

/-- Whether some expressions are readable. -/
def allReadable : List Expr → Bool
  | [] => true
  | e :: rest => isReadable e && allReadable rest

end

mutual

/-- An expression without the places where its parts stand. -/
def bare : Expr → Expr
  | absent => absent
  | literal _ value => literal none value
  | constant _ name value => constant none name value
  | named _ name => named none name
  | unary _ op operand => unary none op (bare operand)
  | binary _ left op right => binary none (bare left) op (bare right)
  | call _ function args => call none function (bares args)
  | index _ base i => index none (bare base) (bare i)
  | entry _ map key => entry none (bare map) key
  | member _ struct name => member none (bare struct) name

/-- Some expressions without their places. -/
def bares : List Expr → List Expr
  | [] => []
  | e :: rest => bare e :: bares rest

end

/-! ## The characters of a text -/

section Characters

variable (place : Option Span)

theorem toList_unary (op : Operator) (operand : Expr) :
    (unary place op operand).written.toList = '-' :: operand.written.toList := by
  simp [written]

theorem toList_binary (left : Expr) (op : Operator) (right : Expr) :
    (binary place left op right).written.toList =
      '(' :: (left.written.toList ++ ' ' ::
        (op.symbol.toList ++ ' ' :: (right.written.toList ++ [')']))) := by
  simp [written]

theorem toList_call (function : String) (args : List Expr) :
    (call place function args).written.toList =
      function.toList ++ '(' :: ((", ".intercalate (allWritten args)).toList ++ [')']) := by
  simp [written]

theorem toList_index (base i : Expr) :
    (index place base i).written.toList =
      base.written.toList ++ '[' :: (i.written.toList ++ [']']) := by
  simp [written]

theorem toList_entry (map : Expr) (key : String) :
    (entry place map key).written.toList = map.written.toList ++ '.' :: key.toList := by
  simp [written]

theorem toList_string (s : String) :
    (literal place (.string s)).written.toList = '"' :: (s.toList ++ ['"']) := by
  simp [written, literalWritten]

theorem toList_integer (n : Nat) :
    (literal place (.integer (.number n))).written.toList = Nat.toDigits 10 n := by
  exact Nat.toList_repr

end Characters

end Expr

namespace Reader

/-! ## Reading back -/

/-- Where an expression is closed, no index or key follows it. -/
theorem accesses_reads {r : List Char} (h : closes r = true) (e : Expr) :
    Reads (accesses e r) (e, r) :=
  .after 0 fun fuel _ => accesses_of_closes h e fuel

/-- The text of an expression is read as that expression, and then what follows it as its indices
and keys. Nothing may follow a negation, since it would belong to what is negated. -/
def ReadsBack (e : Expr) : Prop :=
  ∀ (r : List Char) (x : Expr × List Char), (e.isUnary = true → closes r = true) →
    endsWord r = true → (∀ rest, r ≠ '(' :: rest) → Reads (accesses e.bare r) x →
      Reads (expr (e.written.toList ++ r)) x

/-- Where it is closed, the text of an expression is read as that expression. -/
theorem ReadsBack.closed {e : Expr} (h : ReadsBack e) {r : List Char} (hr : closes r = true) :
    Reads (expr (e.written.toList ++ r)) (e.bare, r) :=
  h r _ (fun _ => hr) (endsWord_of_closes hr) (not_call_of_closes hr) (accesses_reads hr _)

/-- The texts of some arguments are read as those arguments, up to the bracket behind them. -/
def ArgsReadBack (es : List Expr) : Prop :=
  ∀ r : List Char,
    Reads (args ((", ".intercalate (Expr.allWritten es)).toList ++ ')' :: r)) (Expr.bares es, r)

section Forms

variable {left right base i map operand : Expr} {place : Option Span}

theorem integer_reads (n : Nat) : ReadsBack (.literal place (.integer (.number n))) := by
  rintro r x - hr hcall ⟨l, hl⟩
  refine .after l fun fuel hfuel => ?_
  rw [Expr.toList_integer, expr_word (digits_word n) Nat.toDigits_ne_nil hr hcall, atom_digits]
  exact hl fuel hfuel

theorem string_reads {s : String} (hs : '"' ∉ s.toList) :
    ReadsBack (.literal place (.string s)) := by
  rintro r x - - - ⟨l, hl⟩
  refine .after l fun fuel hfuel => ?_
  rw [Expr.toList_string, List.cons_append, List.append_assoc, List.singleton_append, expr,
    quotedText_append hs, String.ofList_toList]
  exact hl fuel hfuel

theorem bool_reads (b : Bool) : ReadsBack (.literal place (.bool b)) := by
  rintro r x - hr hcall ⟨l, hl⟩
  refine .after l fun fuel hfuel => ?_
  cases b with
  | true =>
    have hname : isIdentifier "TRUE" = true := rfl
    have hword := expr_word (identifier_word hname).1 (identifier_ne_nil hname) hr hcall fuel
    exact hword.trans (hl fuel hfuel)
  | false =>
    have hname : isIdentifier "FALSE" = true := rfl
    have hword := expr_word (identifier_word hname).1 (identifier_ne_nil hname) hr hcall fuel
    exact hword.trans (hl fuel hfuel)

theorem named_reads {name : String} (hname : isIdentifier name = true) (ht : name ≠ "TRUE")
    (hf : name ≠ "FALSE") : ReadsBack (.named place name) := by
  rintro r x - hr hcall ⟨l, hl⟩
  refine .after l fun fuel hfuel => ?_
  have hword := expr_word (identifier_word hname).1 (identifier_ne_nil hname) hr hcall fuel
  rw [atom_name hname ht hf] at hword
  exact hword.trans (hl fuel hfuel)

theorem negation_reads (h : ReadsBack operand) : ReadsBack (.unary place .minus operand) := by
  intro r x hclosed _ _ hx
  have hclosed := hclosed rfl
  -- nothing follows a negation, so what is read is the negation alone
  obtain rfl := hx.unique (accesses_reads hclosed _)
  obtain ⟨n, hn⟩ := h.closed hclosed
  refine .after n fun fuel hfuel => ?_
  rw [Expr.toList_unary, List.cons_append, expr, hn fuel hfuel]
  rfl

theorem binary_reads (op : Operator) (hleft : ReadsBack left) (hright : ReadsBack right) :
    ReadsBack (.binary place left op right) := by
  rintro r x - - - ⟨l, hl⟩
  obtain ⟨n, hn⟩ := hleft.closed
    (r := ' ' :: (op.symbol.toList ++ ' ' :: (right.written.toList ++ ')' :: r))) rfl
  obtain ⟨m, hm⟩ := hright.closed (r := ')' :: r) rfl
  refine .after (n + m + l) fun fuel hfuel => ?_
  rw [Expr.toList_binary]
  simp only [List.cons_append, List.append_assoc, List.nil_append, expr]
  rw [hn fuel (by omega), Option.bind_some, operator_append, Option.bind_some,
    hm fuel (by omega), Option.bind_some]
  exact hl fuel (by omega)

theorem call_reads {function : String} (hname : isIdentifier function = true) {es : List Expr}
    (hargs : ArgsReadBack es) : ReadsBack (.call place function es) := by
  rintro r x - - - ⟨l, hl⟩
  obtain ⟨n, hn⟩ := hargs r
  refine .after (n + l) fun fuel hfuel => ?_
  rw [Expr.toList_call]
  simp only [List.cons_append, List.append_assoc, List.nil_append]
  rw [expr_call (identifier_word hname).1 (identifier_ne_nil hname), hn fuel (by omega),
    Option.bind_some, String.ofList_toList]
  exact hl fuel (by omega)

theorem index_reads (hnot : base.isUnary = false) (hbase : ReadsBack base) (hi : ReadsBack i) :
    ReadsBack (.index place base i) := by
  rintro r x - - - ⟨l, hl⟩
  obtain ⟨n, hn⟩ := hi.closed (r := ']' :: r) rfl
  rw [Expr.toList_index, List.append_assoc]
  refine hbase _ x (fun hu => ?_) rfl nofun (.after (n + l) fun fuel hfuel => ?_)
  · rw [hu] at hnot
    cases hnot
  · simp only [List.cons_append, List.append_assoc, List.nil_append, accesses]
    rw [hn fuel (by omega), Option.bind_some]
    exact hl fuel (by omega)

theorem entry_reads {key : String} (hnot : map.isUnary = false) (hmap : ReadsBack map)
    (hkey : isIdentifier key = true) : ReadsBack (.entry place map key) := by
  rintro r x - hr - ⟨l, hl⟩
  rw [Expr.toList_entry, List.append_assoc]
  refine hmap _ x (fun hu => ?_) rfl nofun (.after l fun fuel hfuel => ?_)
  · rw [hu] at hnot
    cases hnot
  · rw [List.cons_append, accesses, word_append (identifier_word hkey).1 hr, String.ofList_toList]
    exact hl fuel hfuel

theorem noArgs_read : ArgsReadBack [] := fun _ => .after 0 fun _ _ => rfl

theorem lastArg_reads {e : Expr} (he : ReadsBack e) : ArgsReadBack [e] := by
  intro r
  obtain ⟨n, hn⟩ := he.closed (r := ')' :: r) rfl
  refine .after n fun fuel hfuel => ?_
  rw [Expr.allWritten, Expr.allWritten, String.intercalate_singleton, args_last (hn fuel hfuel)]
  rfl

theorem moreArgs_read {e e' : Expr} {rest : List Expr} (he : ReadsBack e)
    (hrest : ArgsReadBack (e' :: rest)) : ArgsReadBack (e :: e' :: rest) := by
  intro r
  have hsplit : (", ".intercalate (Expr.allWritten (e :: e' :: rest))).toList ++ ')' :: r =
      e.written.toList ++ ',' :: ' ' ::
        ((", ".intercalate (Expr.allWritten (e' :: rest))).toList ++ ')' :: r) := by
    simp [Expr.allWritten]
  obtain ⟨m, hm⟩ := hrest r
  obtain ⟨n, hn⟩ := he.closed (r := ',' :: ' ' ::
    ((", ".intercalate (Expr.allWritten (e' :: rest))).toList ++ ')' :: r)) rfl
  refine .after (n + m) fun fuel hfuel => ?_
  rw [hsplit, args_more (hn fuel (by omega)), hm fuel (by omega)]
  rfl

end Forms

mutual

/-- The text of a readable expression is read back. -/
theorem expr_reads : ∀ e : Expr, e.isReadable = true → ReadsBack e
  | .literal place (.integer (.number n)), h => by
    obtain ⟨k, rfl⟩ := Int.eq_ofNat_of_zero_le (of_decide_eq_true h)
    exact integer_reads k
  | .literal place (.string s), h => string_reads (by simpa [Expr.isReadable] using h)
  | .literal place (.bool b), _ => bool_reads b
  | .named place name, h => by
    obtain ⟨⟨hname, ht⟩, hf⟩ : (isIdentifier name = true ∧ name ≠ "TRUE") ∧ name ≠ "FALSE" := by
      simpa [Expr.isReadable] using h
    exact named_reads hname ht hf
  | .unary place op operand, h => by
    obtain ⟨rfl, hoperand⟩ : op = .minus ∧ operand.isReadable = true := by
      simpa [Expr.isReadable] using h
    exact negation_reads (expr_reads operand hoperand)
  | .binary place left op right, h => by
    obtain ⟨hleft, hright⟩ := Bool.and_eq_true_iff.1 h
    exact binary_reads op (expr_reads left hleft) (expr_reads right hright)
  | .call place function args, h => by
    obtain ⟨hname, hargs⟩ := Bool.and_eq_true_iff.1 h
    exact call_reads hname (args_reads args hargs)
  | .index place base i, h => by
    obtain ⟨⟨hnot, hbase⟩, hi⟩ : (base.isUnary = false ∧ base.isReadable = true) ∧
        i.isReadable = true := by
      simpa [Expr.isReadable] using h
    exact index_reads hnot (expr_reads base hbase) (expr_reads i hi)
  | .entry place map key, h => by
    obtain ⟨⟨hnot, hmap⟩, hkey⟩ : (map.isUnary = false ∧ map.isReadable = true) ∧
        isIdentifier key = true := by
      simpa [Expr.isReadable] using h
    exact entry_reads hnot (expr_reads map hmap) hkey

theorem args_reads : ∀ es : List Expr, Expr.allReadable es = true → ArgsReadBack es
  | [], _ => noArgs_read
  | [e], h => by
    obtain ⟨he, -⟩ := Bool.and_eq_true_iff.1 h
    exact lastArg_reads (expr_reads e he)
  | e :: e' :: rest, h => by
    obtain ⟨he, hrest⟩ := Bool.and_eq_true_iff.1 h
    exact moreArgs_read (expr_reads e he) (args_reads (e' :: rest) hrest)

end

end Reader

end DialogScript
