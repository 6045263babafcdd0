import DialogScript.Proofs.Loading.Intact
import DialogScript.Proofs.Typing.Soundness

/-!
Calm readings: those that only numbers can break down. An operation meets a missing operand only
where the tree lacks one, and a value is read through a reader for its own type; so the readings of
a filled expression break down by arithmetic alone, whatever the names in it are bound to. As for
static types, the bound arrays must be homogeneous: the type of an index expression is read off the
first element, and an index into the element that it stands for relies on that type.
-/

namespace DialogScript

namespace Eval

variable {α β : Type} {s : Scope}

/-- At `s`, `m` breaks down by arithmetic if it breaks down. -/
def Calm (s : Scope) (m : Eval α) : Prop :=
  ∀ b, (m s).result = .error (.broken b) → b.isArithmetic = true

namespace Calm

theorem of_safe {m : Eval α} {P : α → Prop} (h : Safe s m P) : Calm s m := fun _ hb => h.2 _ hb

theorem of_ok {m : Eval α} {a : α} (h : (m s).result = .ok a) : Calm s m := by
  intro b hb
  rw [h] at hb
  cases hb

theorem pure (a : α) : Calm s (Pure.pure a : Eval α) := of_ok rfl

theorem fail (p : Problem) (span : Option Span) : Calm s (Eval.fail p span : Eval α) := by
  intro b hb
  cases hb

theorem orBreak {r : Except Breakdown α} (h : Arithmetic r) : Calm s (Eval.orBreak r) :=
  of_safe (.orBreak (P := fun _ => True) h fun _ _ => trivial)

theorem bind {m : Eval α} {f : α → Eval β} (hm : Calm s m)
    (hf : ∀ a, (m s).result = .ok a → Calm s (f a)) : Calm s (m >>= f) := by
  intro b hb
  rw [result_bind] at hb
  cases h : (m s).result with
  | ok a =>
    rw [h] at hb
    exact hf a h b hb
  | error e =>
    rw [h] at hb
    cases hb
    exact hm b h

theorem map {m : Eval α} (f : α → β) (hm : Calm s m) : Calm s (f <$> m) := by
  rw [map_eq_pure_bind]
  exact hm.bind fun a _ => pure (f a)

theorem ite {c : Prop} [Decidable c] {m m' : Eval α} (h : c → Calm s m) (h' : ¬c → Calm s m') :
    Calm s (if c then m else m') := by
  by_cases hc : c
  · rw [if_pos hc]
    exact h hc
  · rw [if_neg hc]
    exact h' hc

/-- What follows something that is there need only be calm where it is. -/
theorem bind_some {m : Eval (Option α)} {f : Option α → Eval β} (hm : Calm s m)
    (hn : (m s).result ≠ .ok none) (hf : ∀ a, Calm s (f (some a))) : Calm s (m >>= f) := by
  refine hm.bind fun found h => ?_
  cases found with
  | some a => exact hf a
  | none => exact absurd h hn

end Calm

theorem bind_ne_none {m : Eval (Option α)} {f : Option α → Eval (Option β)}
    (hn : (m s).result ≠ .ok none) (hf : ∀ a, (f (some a) s).result ≠ .ok none) :
    ((m >>= f) s).result ≠ .ok none := by
  intro h
  obtain ⟨found, hfound, h⟩ := bind_ok h
  cases found with
  | some a => exact hf a h
  | none => exact hn hfound

end Eval

open Eval

/-- Every reading of an expression is calm at `s`. -/
structure Reading.Calm (s : Scope) (r : Reading) : Prop where
  type : Eval.Calm s r.type
  value : Eval.Calm s r.value
  stored : Eval.Calm s r.stored
  integer : Eval.Calm s r.integer
  double : Eval.Calm s r.double
  text : Eval.Calm s r.text

/-- Every reading of an expression is calm at `s`, and there is something to read as a number. -/
structure Reading.Filled (s : Scope) (r : Reading) : Prop extends r.Calm s where
  integer_some : (r.integer s).result ≠ .ok none
  double_some : (r.double s).result ≠ .ok none

namespace Reading

variable {s : Scope}

theorem calm_absent : absent.Calm s where
  type := .fail _ _
  value := .fail _ _
  stored := .fail _ _
  integer := .pure none
  double := .pure none
  text := .pure none

/-! ## Reading values -/

theorem notEvaluable_calm {α : Type} (e : Expr) (target : String) :
    Eval.Calm s (notEvaluable e target : Eval α) :=
  .of_safe (notEvaluable_safe (P := fun _ => True) e target)

/-- An expression without a value of a sort gives nothing, and that is no missing value. -/
theorem notEvaluable_ne_ok {α : Type} (e : Expr) (target : String) (a : α) :
    (notEvaluable e target s).result ≠ .ok a := by
  intro h
  obtain ⟨text, -, hfail⟩ := bind_ok h
  cases hfail

theorem integerOf_calm (e : Expr) (v : Value) : Eval.Calm s (integerOf e v) := by
  cases v with
  | integer n => exact .pure _
  | bool b => exact .pure _
  | double x => exact .map _ (.orBreak (Number.integral_arithmetic _ x))
  | _ => exact notEvaluable_calm e _

theorem integerOf_some (e : Expr) (v : Value) : (integerOf e v s).result ≠ .ok none := by
  intro h
  cases v with
  | double x =>
    obtain ⟨n, -, hn⟩ := map_ok h
    cases hn
  | integer _ | bool _ => cases h
  | _ => exact notEvaluable_ne_ok e _ none h

theorem doubleOf_calm (e : Expr) (v : Value) : Eval.Calm s (doubleOf e v) := by
  cases v with
  | integer n => exact .map _ (.orBreak (Number.toDouble_arithmetic n))
  | double x => exact .pure _
  | _ => exact notEvaluable_calm e _

theorem doubleOf_some (e : Expr) (v : Value) : (doubleOf e v s).result ≠ .ok none := by
  intro h
  cases v with
  | integer n =>
    obtain ⟨x, -, hx⟩ := map_ok h
    cases hx
  | double _ => cases h
  | _ => exact notEvaluable_ne_ok e _ none h

/-- An expression that is read through its value throughout. -/
theorem filled_ofValue {e : Expr} {type : Eval ValueType} {value : Eval Value}
    (ht : Eval.Calm s type) (hv : Eval.Calm s value) : (ofValue e type value).Filled s where
  type := ht
  value := hv
  stored := hv
  integer := hv.bind fun v _ => integerOf_calm e v
  double := hv.bind fun v _ => doubleOf_calm e v
  text := hv.bind fun v _ => .of_safe (textOf_safe e v)
  integer_some h :=
    have ⟨v, _, hv⟩ := bind_ok h
    integerOf_some e v hv
  double_some h :=
    have ⟨v, _, hv⟩ := bind_ok h
    doubleOf_some e v hv

/-! ## Literals and names -/

theorem unbound_calm {α : Type} (span : Option Span) (name : String) (a : α) :
    Eval.Calm s (unbound span name a) :=
  .ite (fun _ => .bind (.of_ok rfl) fun _ _ => .pure a) fun _ => .fail _ _

theorem boundValue_calm (span : Option Span) (name : String) :
    Eval.Calm s (boundValue span name) := by
  refine .bind (.of_ok rfl) fun found _ => ?_
  cases found with
  | some v => exact .pure v
  | none => exact .fail _ _

theorem filled_named (span : Option Span) (name : String) : (named span name).Filled s where
  type := by
    refine .bind (.of_ok rfl) fun found _ => ?_
    cases found with
    | some v => exact .pure _
    | none => exact unbound_calm span name _
  value := by
    refine .bind (.of_ok rfl) fun found _ => ?_
    cases found with
    | some v => exact .pure v
    | none => exact unbound_calm span name _
  stored := boundValue_calm span name
  integer := (boundValue_calm span name).bind fun v _ => integerOf_calm _ v
  double := (boundValue_calm span name).bind fun v _ => doubleOf_calm _ v
  text := by
    refine .bind (.of_ok rfl) fun found _ => ?_
    cases found with
    | some v => exact .bind (.orBreak v.scalarText?_arithmetic) fun _ _ => .pure _
    | none => exact .pure _
  integer_some h :=
    have ⟨v, _, hv⟩ := bind_ok h
    integerOf_some _ v hv
  double_some h :=
    have ⟨v, _, hv⟩ := bind_ok h
    doubleOf_some _ v hv

/-! ## Operators -/

theorem negated_calm (span : Option Span) (op : Operator) (v : Value) :
    Eval.Calm s (negated span op v) := by
  cases v with
  | integer n => exact .ite (fun _ => .pure _) fun _ => .fail _ _
  | double x => exact .ite (fun _ => .pure _) fun _ => .fail _ _
  | _ => exact .fail _ _

theorem filled_unary (span : Option Span) (op : Operator) (operand : Operand)
    (ho : operand.reading.Filled s) : (unary span op operand).Filled s := by
  have general := filled_ofValue (e := .unary span op operand.expr)
    (ho.type.bind fun t _ => .ite (c := op = .minus ∧ t.isNumeric) (fun _ => .pure t)
      fun _ => .fail (.invalidOperand op t) span)
    (ho.value.bind fun v _ => negated_calm span op v)
  have calm : (unary span op operand).Calm s :=
    { general.toCalm with
      integer := .ite (fun _ => .bind_some ho.integer ho.integer_some fun n => .pure _)
        fun _ => general.integer
      double := .ite (fun _ => .bind_some ho.double ho.double_some fun x => .pure _)
        fun _ => general.double }
  refine ⟨calm, ?_, ?_⟩
  · unfold unary
    dsimp only
    split
    · exact bind_ne_none ho.integer_some fun n => nofun
    · exact general.integer_some
  · unfold unary
    dsimp only
    split
    · exact bind_ne_none ho.double_some fun x => nofun
    · exact general.double_some

theorem concatText_calm {operand : Operand} (ho : operand.reading.Calm s) :
    Eval.Calm s (concatText operand) :=
  .ite (fun _ => notEvaluable_calm _ _) fun _ => .bind ho.text fun _ _ => .pure _

theorem concatenated_calm {left right : Operand} (hl : left.reading.Calm s)
    (hr : right.reading.Calm s) : Eval.Calm s (concatenated left right) :=
  .bind (concatText_calm hl) fun _ _ => .bind (concatText_calm hr) fun _ _ => .pure _

theorem binaryType_calm (span : Option Span) (op : Operator) (l r : ValueType) :
    Eval.Calm s (binaryType span op l r) := by
  refine .ite (fun _ => .pure _) fun _ => .ite (fun _ => ?_) fun _ => .ite (fun _ => ?_) fun _ => ?_
  · exact .ite (fun _ => .pure _) fun _ => .fail _ _
  · exact .ite (fun _ => .pure _) fun _ => .fail _ _
  · refine .ite (fun _ => .fail _ _) fun _ => .ite (fun _ => .fail _ _) fun _ => ?_
    exact .ite (fun _ => .fail _ _) fun _ => .pure _

/-- Values are compared as numbers only where both are. -/
theorem equal_calm (span : Option Span) (op : Operator) (a b : Value) :
    Eval.Calm s (equal span op a b) := by
  unfold equal
  split
  · exact .pure _
  · exact .fail _ _
  · exact .fail _ _
  · next ha hb _ =>
    have isNoString {v : Value} (hv : ∀ x, v = .string x → False) : v.type ≠ .string := fun ht =>
      have ⟨x, hx⟩ := Builtin.string_of_type ht
      hv x hx
    refine .ite (fun hs => ?_) fun _ => .fail _ _
    obtain ⟨hsa, hsb⟩ := Bool.and_eq_true_iff.1 hs
    have hca := isCondition_of_isScalar hsa (isNoString ha)
    have hcb := isCondition_of_isScalar hsb (isNoString hb)
    refine .ite (fun _ => ?_) fun hd => .of_safe (integers_safe hca hcb hd)
    exact .of_safe (doubles_safe hca hcb fun _ _ =>
      .bind epsilon_safe fun _ _ _ => .pure trivial)

theorem ordered_calm (span : Option Span) (op : Operator) (a b : Value) :
    Eval.Calm s (ordered span op a b) := by
  by_cases h : (a.type.isCondition && b.type.isCondition) = true
  · obtain ⟨ha, hb⟩ := Bool.and_eq_true_iff.1 h
    exact .of_safe (ordered_safe span op ha hb)
  · rw [ordered, if_neg h]
    exact .fail _ _

theorem logical_calm (op : Operator) {left right : Eval Value} (hl : Eval.Calm s left)
    (hr : Eval.Calm s right) : Eval.Calm s (logical op left right) :=
  hl.bind fun _ _ => .ite (fun _ => .pure _) fun _ => .ite (fun _ => .pure _) fun _ =>
    hr.bind fun _ _ => .pure _

theorem binaryValue_calm (span : Option Span) (op : Operator) {left right : Operand}
    (hl : left.reading.Calm s) (hr : right.reading.Calm s) :
    Eval.Calm s (binaryValue span op left right) := by
  refine .ite (fun _ => logical_calm op hl.value hr.value) fun _ => ?_
  refine .bind hl.value fun a _ => .bind hr.value fun b _ => ?_
  refine .ite (fun _ => .map _ (concatenated_calm hl hr)) fun _ => ?_
  refine .ite (fun _ => .ite (fun hn => ?_) fun _ => .fail _ _) fun _ => ?_
  · obtain ⟨ha, hb⟩ := Bool.and_eq_true_iff.1 hn
    exact .of_safe (arithmetic_safe span op ha hb)
  · refine .ite (fun _ => ?_) fun _ => .map _ (ordered_calm span op a b)
    exact .bind (equal_calm span op a b) fun _ _ => .pure _

theorem integerOperation_calm (span : Option Span) (op : Operator) (a b : Int) :
    Eval.Calm s (integerOperation span op (some a) (some b)) := by
  cases op with
  | plus | minus | star => exact .pure _
  | _ => exact .ite (fun _ => .fail _ _) fun _ => .pure _

theorem integerOperation_some (span : Option Span) (op : Operator) (a b : Int) :
    (integerOperation span op (some a) (some b) s).result ≠ .ok none := by
  have hdivision : ((if b = 0 then Eval.fail .divisionByZero span else pure (some (a.tdiv b)) :
      Eval (Option Int)) s).result ≠ .ok none := by
    split <;> rintro ⟨⟩
  cases op with
  | plus | minus | star => rintro ⟨⟩
  | _ => exact hdivision

theorem doubleOperation_calm (span : Option Span) (op : Operator) (a b : Float) :
    Eval.Calm s (doubleOperation span op (some a) (some b)) := by
  cases op with
  | plus | minus | star => exact .pure _
  | _ => exact .ite (fun _ => .fail _ _) fun _ => .pure _

theorem doubleOperation_some (span : Option Span) (op : Operator) (a b : Float) :
    (doubleOperation span op (some a) (some b) s).result ≠ .ok none := by
  have hdivision : ((if b == 0.0 then Eval.fail .divisionByZero span else pure (some (a / b)) :
      Eval (Option Float)) s).result ≠ .ok none := by
    split <;> rintro ⟨⟩
  cases op with
  | plus | minus | star => rintro ⟨⟩
  | _ => exact hdivision

theorem filled_binary (span : Option Span) (op : Operator) (left right : Operand)
    (hl : left.reading.Filled s) (hr : right.reading.Filled s) :
    (binary span left op right).Filled s := by
  have general := filled_ofValue (e := .binary span left.expr op right.expr)
    (hl.type.bind fun l _ => hr.type.bind fun r _ => binaryType_calm span op l r)
    (binaryValue_calm span op hl.toCalm hr.toCalm)
  have calm : (binary span left op right).Calm s :=
    { general.toCalm with
      integer := .ite (fun _ => .bind_some hl.integer hl.integer_some fun a =>
        .bind_some hr.integer hr.integer_some fun b => integerOperation_calm span op a b)
        fun _ => general.integer
      double := .ite (fun _ => .bind_some hl.double hl.double_some fun a =>
        .bind_some hr.double hr.double_some fun b => doubleOperation_calm span op a b)
        fun _ => general.double
      text := .bind (.of_ok rfl) fun _ _ =>
        .ite (fun _ => .map _ (concatenated_calm hl.toCalm hr.toCalm)) fun _ => general.text }
  refine ⟨calm, ?_, ?_⟩
  · unfold binary
    dsimp only
    split
    · exact bind_ne_none hl.integer_some fun a =>
        bind_ne_none hr.integer_some fun b => integerOperation_some span op a b
    · exact general.integer_some
  · unfold binary
    dsimp only
    split
    · exact bind_ne_none hl.double_some fun a =>
        bind_ne_none hr.double_some fun b => doubleOperation_some span op a b
    · exact general.double_some

/-! ## Calls -/

theorem signature_calm (span : Option Span) (name : String) (args : List Argument) :
    Eval.Calm s (signature span name args) := by
  unfold signature
  split
  · exact .fail _ _
  · exact .ite (fun _ => .pure _) fun _ => .fail _ _

theorem checkArguments_calm (function : String) {args : List (Argument × ValueType)}
    (h : ∀ a ∈ args, a.1.reading.Calm s) (place : Nat) :
    Eval.Calm s (checkArguments function place args) := by
  induction args generalizing place with
  | nil => exact .pure _
  | cons arg rest ih =>
    obtain ⟨harg, hrest⟩ := List.forall_mem_cons.1 h
    exact .bind harg.type fun found _ => .ite (fun _ => ih hrest _) fun _ => .fail _ _

theorem widened_calm (function : String) (place : Nat) (span : Option Span) (t : ValueType)
    (v : Value) : Eval.Calm s (widened function place span t v) := by
  rcases widened_cases function place span t v with ⟨n, rfl, rfl⟩ | ⟨-, hw⟩
  · exact .map _ (.orBreak (Number.toDouble_arithmetic n))
  · rw [hw]
    exact .ite (fun _ => .pure _) fun _ => .fail _ _

theorem argumentValues_calm (function : String) {args : List (Argument × ValueType)}
    (h : ∀ a ∈ args, a.1.reading.Calm s) (place : Nat) :
    Eval.Calm s (argumentValues function place args) := by
  induction args generalizing place with
  | nil => exact .pure _
  | cons arg rest ih =>
    obtain ⟨harg, hrest⟩ := List.forall_mem_cons.1 h
    refine .bind harg.value fun v _ => .bind (widened_calm _ _ _ _ v) fun _ _ => ?_
    exact .bind (ih hrest _) fun _ _ => .pure _

/-- A built-in function is called with values of the types of its parameters only. -/
theorem filled_call (span : Option Span) (name : String) (exprs : List Expr)
    {args : List Argument} (h : ∀ a ∈ args, a.reading.Calm s) :
    (call span name exprs args).Filled s := by
  have hm (f : Builtin) : ∀ a ∈ matched f args, a.1.reading.Calm s :=
    fun a ha => h a.1 (List.of_mem_zip ha).1
  refine filled_ofValue ?_ ?_
  · refine .bind (signature_calm span name args) fun f _ => ?_
    exact .bind (checkArguments_calm f.name (hm f) 0) fun _ _ => .pure _
  · refine .bind (signature_calm span name args) fun f hf => ?_
    refine .bind (argumentValues_calm f.name (hm f) 0) fun values hv => ?_
    have htypes := (argumentValues_ok hv).trans (matched_types (signature_ok hf))
    exact .of_safe (callResult_safe span (Builtin.call_gives f htypes))

/-! ## Containers -/

theorem elementValue_calm (span : Option Span) {base index : Operand} (hb : base.reading.Calm s)
    (hi : index.reading.Calm s) : Eval.Calm s (elementValue span base index) := by
  refine .bind hb.stored fun array _ => ?_
  cases array with
  | array items =>
    refine .bind hi.value fun i _ => ?_
    cases i with
    | integer i => exact .of_safe (element_safe span base.expr items i)
    | _ => exact .fail _ _
  | _ => exact .fail _ _

/-- What is typed as an array is stored as one. -/
theorem elementType_calm (span : Option Span) {base index : Operand} (hb : base.reading.Calm s)
    (hi : index.reading.Calm s) (ht : ∀ t v, (base.reading.type s).result = .ok t →
      (base.reading.stored s).result = .ok v → v.type = t) :
    Eval.Calm s (elementType span base index) := by
  refine .bind hb.type fun t htype => .ite (fun _ => .fail _ _) fun harray => ?_
  refine .bind hi.type fun _ _ => .ite (fun _ => .fail _ _) fun _ => ?_
  refine .bind hb.stored fun v hv => ?_
  obtain rfl := Decidable.not_not.1 harray
  have hvt := ht _ v htype hv
  cases v with
  | array items =>
    refine .bind (.of_ok rfl) fun items _ => ?_
    cases items with
    | nil => exact .fail _ _
    | cons first rest => exact .pure _
  | _ => cases hvt

theorem filled_index (span : Option Span) {base index : Operand} (hb : base.reading.Calm s)
    (hi : index.reading.Calm s) (ht : ∀ t v, (base.reading.type s).result = .ok t →
      (base.reading.stored s).result = .ok v → v.type = t) :
    (Reading.index span base index).Filled s :=
  filled_ofValue (elementType_calm span hb hi ht) (elementValue_calm span hb hi)

theorem memberValue_calm (span : Option Span) (base : Expr) (key : String)
    (entries : List (String × Option Value)) : Eval.Calm s (memberValue span base key entries) := by
  unfold memberValue
  split
  · exact .pure _
  · exact .bind (.orBreak base.text_arithmetic) fun _ _ => .fail _ _

theorem filled_entry (span : Option Span) {map : Operand} (key : String)
    (hm : map.reading.Calm s) : (entry span map key).Filled s := by
  have stored : Eval.Calm s (entry span map key).stored := by
    refine .bind hm.stored fun found _ => ?_
    cases found with
    | map entries => exact memberValue_calm span map.expr key entries
    | _ => exact .fail _ _
  exact filled_ofValue (.map _ stored) stored

theorem filled_member (span : Option Span) {struct : Operand} (name : String)
    (hs : struct.reading.Calm s) : (member span struct name).Filled s := by
  have stored : Eval.Calm s (member span struct name).stored := by
    refine .bind hs.stored fun found _ => ?_
    cases found with
    | struct members => exact memberValue_calm span struct.expr name members
    | _ => exact .fail _ _
  exact filled_ofValue (.map _ stored) stored

end Reading

namespace Expr

variable {s : Scope}

/-- The stored value of an expression with a static type has that type. -/
theorem stored_type (hom : ∀ name v, s.lookup name = some v → v.Homogeneous) (e : Expr)
    {t : ValueType} {v : Value} (ht : (e.reading.type s).result = .ok t)
    (hv : (e.reading.stored s).result = .ok v) : v.type = t := by
  cases e with
  | absent => cases ht
  | named span name =>
    have hlookup := Reading.boundValue_ok hv
    rcases Reading.named_type_ok ht with ⟨w, hw, hwt⟩ | ⟨hn, -, -⟩
    · rw [hlookup] at hw
      cases hw
      exact hwt
    · rw [hlookup] at hn
      cases hn
  | _ => exact ((reading_sound hom _).value t ht).1 v hv

mutual

theorem reading_filled (hom : ∀ name v, s.lookup name = some v → v.Homogeneous) :
    ∀ e : Expr, e.isFilled = true → e.reading.Filled s
  | absent, h => by cases h
  | literal _ _, _ => Reading.filled_ofValue (.pure _) (.pure _)
  | constant _ _ _, _ => Reading.filled_ofValue (.pure _) (.pure _)
  | named span name, _ => Reading.filled_named span name
  | unary span op operand, h =>
    Reading.filled_unary span op ⟨operand, operand.reading⟩ (reading_filled hom operand h)
  | binary span left op right, h =>
    have ⟨hl, hr⟩ := Bool.and_eq_true_iff.1 h
    Reading.filled_binary span op ⟨left, left.reading⟩ ⟨right, right.reading⟩
      (reading_filled hom left hl) (reading_filled hom right hr)
  | call span name args, h => Reading.filled_call span name args (arguments_calm hom args h)
  | index span base i, h =>
    have ⟨hb, hi⟩ := Bool.and_eq_true_iff.1 h
    Reading.filled_index span (reading_filled hom base hb).toCalm (reading_filled hom i hi).toCalm
      fun _ _ => stored_type hom base
  | entry span map key, h => Reading.filled_entry span key (reading_filled hom map h).toCalm
  | member span struct name, h =>
    Reading.filled_member span name (reading_filled hom struct h).toCalm

theorem arguments_calm (hom : ∀ name v, s.lookup name = some v → v.Homogeneous) :
    ∀ es : List Expr, allFilled es = true → ∀ a ∈ arguments es, a.reading.Calm s
  | [], _ => fun _ ha => absurd ha List.not_mem_nil
  | e :: rest, h => by
    obtain ⟨he, hr⟩ := Bool.and_eq_true_iff.1 h
    exact List.forall_mem_cons.2 ⟨(reading_filled hom e he).toCalm, arguments_calm hom rest hr⟩

end

/-- The readings of an intact slot break down by arithmetic alone. -/
theorem reading_calm (hom : ∀ name v, s.lookup name = some v → v.Homogeneous) {e : Expr}
    (h : e.isIntact = true) : e.reading.Calm s := by
  cases e with
  | absent => exact Reading.calm_absent
  | _ => exact (reading_filled hom _ h).toCalm

end Expr

end DialogScript
