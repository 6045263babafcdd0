import DialogScript.Eval.Reading

/-!
Properties that every reading of an expression has. A reading is composed of a few computations: a
property that these have and that composing keeps is one of all readings. A reading consults the
bindings in two places: where it comes to a name, and where a sum is read as a text, since a name
without a value counts as a text there.
-/

namespace DialogScript

namespace Expr

mutual

/-- The names that an expression mentions. -/
def names : Expr → List String
  | absent | literal .. | constant .. => []
  | named _ name => [name]
  | unary _ _ operand => names operand
  | binary _ left _ right => names left ++ names right
  | call _ _ args => allNames args
  | index _ base i => names base ++ names i
  | entry _ map _ => names map
  | member _ struct _ => names struct

/-- The names that some expressions mention. -/
def allNames : List Expr → List String
  | [] => []
  | e :: rest => names e ++ allNames rest

end

end Expr

/-- A property of computations that those have which a reading is composed of, and that composing
them keeps. A sum is read as a text in one of two ways, by what its names are bound to. -/
structure Eval.Compositional (Q : (α : Type) → Eval α → Prop) : Prop where
  pure : ∀ {α : Type} (a : α), Q α (Pure.pure a)
  fail : ∀ {α : Type} (p : Problem) (span : Option Span), Q α (Eval.fail p span)
  orBreak : ∀ {α : Type} (r : Except Breakdown α), Q α (Eval.orBreak r)
  epsilon : Q Float Eval.epsilon
  unbound : ∀ {α : Type} (span : Option Span) (name : String) (a : α),
    Q α (Reading.unbound span name a)
  bind : ∀ {α β : Type} {m : Eval α} {f : α → Eval β}, Q α m → (∀ a, Q β (f a)) → Q β (m >>= f)
  asText : ∀ {α : Type} (op : Operator) (left right : Expr) {m m' : Eval α},
    (∀ name ∈ left.names ++ right.names, Q (Option Value) (Eval.lookup name)) →
    Q α m → Q α m' →
    Q α (Eval.scope >>= fun s =>
      if op = .plus ∧ (Reading.isText s.lookup left ∨ Reading.isText s.lookup right) then m
      else m')

/-- Every reading of an expression has a property. -/
structure Reading.Each (Q : (α : Type) → Eval α → Prop) (r : Reading) : Prop where
  type : Q ValueType r.type
  value : Q Value r.value
  stored : Q Value r.stored
  integer : Q (Option Int) r.integer
  double : Q (Option Float) r.double
  text : Q (Option String) r.text

variable {Q : (α : Type) → Eval α → Prop}

theorem Eval.Compositional.map (hQ : Compositional Q) {α β : Type} {m : Eval α} (f : α → β)
    (hm : Q α m) : Q β (f <$> m) := by
  rw [map_eq_pure_bind]
  exact hQ.bind hm fun a => hQ.pure (f a)

namespace Reading

theorem each_ite {α : Type} {c : Prop} [Decidable c] {m m' : Eval α} (h : Q α m) (h' : Q α m') :
    Q α (if c then m else m') := by
  split
  · exact h
  · exact h'

variable (hQ : Eval.Compositional Q)

include hQ

/-! ## Reading values -/

theorem each_absent : absent.Each Q where
  type := hQ.fail _ _
  value := hQ.fail _ _
  stored := hQ.fail _ _
  integer := hQ.pure _
  double := hQ.pure _
  text := hQ.pure _

theorem each_notEvaluable {α : Type} (e : Expr) (target : String) :
    Q α (notEvaluable e target) :=
  hQ.bind (hQ.orBreak _) fun _ => hQ.fail _ _

theorem each_integerOf (e : Expr) (v : Value) : Q _ (integerOf e v) := by
  cases v with
  | integer n => exact hQ.pure _
  | bool b => exact hQ.pure _
  | double x => exact hQ.map _ (hQ.orBreak _)
  | _ => exact each_notEvaluable hQ e _

theorem each_doubleOf (e : Expr) (v : Value) : Q _ (doubleOf e v) := by
  cases v with
  | integer n => exact hQ.map _ (hQ.orBreak _)
  | double x => exact hQ.pure _
  | _ => exact each_notEvaluable hQ e _

theorem each_textOf (e : Expr) (v : Value) : Q _ (textOf e v) := by
  refine hQ.bind (hQ.orBreak _) fun found => ?_
  cases found with
  | none => exact each_notEvaluable hQ e _
  | some s => exact hQ.pure _

/-- An expression that is read through its value throughout. -/
theorem each_ofValue {e : Expr} {type : Eval ValueType} {value : Eval Value}
    (ht : Q _ type) (hv : Q _ value) : (ofValue e type value).Each Q where
  type := ht
  value := hv
  stored := hv
  integer := hQ.bind hv (each_integerOf hQ e)
  double := hQ.bind hv (each_doubleOf hQ e)
  text := hQ.bind hv (each_textOf hQ e)

/-! ## Names -/

theorem each_boundValue (span : Option Span) {name : String} (h : Q _ (Eval.lookup name)) :
    Q _ (boundValue span name) := by
  refine hQ.bind h fun found => ?_
  cases found with
  | none => exact hQ.fail _ _
  | some v => exact hQ.pure v

theorem each_named (span : Option Span) {name : String} (h : Q _ (Eval.lookup name)) :
    (named span name).Each Q where
  type := by
    refine hQ.bind h fun found => ?_
    cases found with
    | none => exact hQ.unbound span name _
    | some v => exact hQ.pure _
  value := by
    refine hQ.bind h fun found => ?_
    cases found with
    | none => exact hQ.unbound span name _
    | some v => exact hQ.pure v
  stored := each_boundValue hQ span h
  integer := hQ.bind (each_boundValue hQ span h) (each_integerOf hQ _)
  double := hQ.bind (each_boundValue hQ span h) (each_doubleOf hQ _)
  text := by
    refine hQ.bind h fun found => ?_
    cases found with
    | none => exact hQ.pure _
    | some v => exact hQ.bind (hQ.orBreak _) fun _ => hQ.pure _

/-! ## Operators -/

theorem each_negated (span : Option Span) (op : Operator) (v : Value) :
    Q _ (negated span op v) := by
  cases v with
  | integer n => exact each_ite (hQ.pure _) (hQ.fail _ _)
  | double x => exact each_ite (hQ.pure _) (hQ.fail _ _)
  | _ => exact hQ.fail _ _

theorem each_unary (span : Option Span) (op : Operator) {operand : Operand}
    (ho : operand.reading.Each Q) : (unary span op operand).Each Q := by
  have general := each_ofValue hQ (e := .unary span op operand.expr)
    (hQ.bind ho.type fun t => each_ite (c := op = .minus ∧ t.isNumeric) (hQ.pure t)
      (hQ.fail (.invalidOperand op t) span))
    (hQ.bind ho.value (each_negated hQ span op))
  refine { general with
    integer := each_ite (hQ.bind ho.integer fun found => ?_) general.integer
    double := each_ite (hQ.bind ho.double fun found => ?_) general.double }
  · cases found with
    | none => exact hQ.orBreak _
    | some n => exact hQ.pure _
  · cases found with
    | none => exact hQ.orBreak _
    | some x => exact hQ.pure _

theorem each_concatText {operand : Operand} (ho : operand.reading.Each Q) :
    Q _ (concatText operand) :=
  each_ite (each_notEvaluable hQ _ _) (hQ.bind ho.text fun _ => hQ.pure _)

theorem each_concatenated {left right : Operand} (hl : left.reading.Each Q)
    (hr : right.reading.Each Q) : Q _ (concatenated left right) :=
  hQ.bind (each_concatText hQ hl) fun _ => hQ.bind (each_concatText hQ hr) fun _ => hQ.pure _

theorem each_binaryType (span : Option Span) (op : Operator) (l r : ValueType) :
    Q _ (binaryType span op l r) := by
  refine each_ite (hQ.pure _) (each_ite (each_ite (hQ.pure _) (hQ.fail _ _)) ?_)
  refine each_ite (each_ite (hQ.pure _) (hQ.fail _ _)) (each_ite (hQ.fail _ _) ?_)
  exact each_ite (hQ.fail _ _) (each_ite (hQ.fail _ _) (hQ.pure _))

theorem each_arithmetic (span : Option Span) (op : Operator) (a b : Value) :
    Q _ (arithmetic span op a b) := by
  refine hQ.bind (hQ.orBreak _) fun x => hQ.bind (hQ.orBreak _) fun y => ?_
  split
  · exact each_ite (hQ.fail _ _) (hQ.pure _)
  · split <;> exact hQ.pure _

theorem each_equal (span : Option Span) (op : Operator) (a b : Value) :
    Q _ (equal span op a b) := by
  unfold equal
  split
  · exact hQ.pure _
  · exact hQ.fail _ _
  · exact hQ.fail _ _
  · refine each_ite (each_ite ?_ ?_) (hQ.fail _ _)
    · exact hQ.bind (hQ.orBreak _) fun _ => hQ.bind (hQ.orBreak _) fun _ =>
        hQ.bind hQ.epsilon fun _ => hQ.pure _
    · exact hQ.bind (hQ.orBreak _) fun _ => hQ.bind (hQ.orBreak _) fun _ => hQ.pure _

theorem each_ordered (span : Option Span) (op : Operator) (a b : Value) :
    Q _ (ordered span op a b) := by
  refine each_ite (each_ite ?_ ?_) (hQ.fail _ _)
  · exact hQ.bind (hQ.orBreak _) fun _ => hQ.bind (hQ.orBreak _) fun _ =>
      hQ.bind hQ.epsilon fun _ => hQ.pure _
  · exact hQ.bind (hQ.orBreak _) fun _ => hQ.bind (hQ.orBreak _) fun _ => hQ.pure _

theorem each_logical (op : Operator) {left right : Eval Value} (hl : Q _ left)
    (hr : Q _ right) : Q _ (logical op left right) :=
  hQ.bind hl fun _ => each_ite (hQ.pure _) (each_ite (hQ.pure _) (hQ.bind hr fun _ => hQ.pure _))

theorem each_binaryValue (span : Option Span) (op : Operator) {left right : Operand}
    (hl : left.reading.Each Q) (hr : right.reading.Each Q) :
    Q _ (binaryValue span op left right) := by
  refine each_ite (each_logical hQ op hl.value hr.value) ?_
  refine hQ.bind hl.value fun a => hQ.bind hr.value fun b => ?_
  refine each_ite (hQ.map _ (each_concatenated hQ hl hr)) (each_ite ?_ (each_ite ?_ ?_))
  · exact each_ite (each_arithmetic hQ span op a b) (hQ.fail _ _)
  · exact hQ.bind (each_equal hQ span op a b) fun _ => hQ.pure _
  · exact hQ.map _ (each_ordered hQ span op a b)

theorem each_integerOperation (span : Option Span) (op : Operator) (a b : Option Int) :
    Q _ (integerOperation span op a b) := by
  unfold integerOperation
  split
  · split
    · exact hQ.pure _
    · exact hQ.pure _
    · exact hQ.pure _
    · exact each_ite (hQ.fail _ _) (hQ.pure _)
  · exact each_ite (each_ite (hQ.fail _ _) (hQ.orBreak _)) (hQ.orBreak _)

theorem each_doubleOperation (span : Option Span) (op : Operator) (a b : Option Float) :
    Q _ (doubleOperation span op a b) := by
  unfold doubleOperation
  split
  · split
    · exact hQ.pure _
    · exact hQ.pure _
    · exact hQ.pure _
    · exact each_ite (hQ.fail _ _) (hQ.pure _)
  · exact each_ite (hQ.fail _ _) (hQ.orBreak _)

theorem each_binary (span : Option Span) (op : Operator) {left right : Operand}
    (hl : left.reading.Each Q) (hr : right.reading.Each Q)
    (h : ∀ name ∈ left.expr.names ++ right.expr.names, Q _ (Eval.lookup name)) :
    (binary span left op right).Each Q := by
  have general := each_ofValue hQ (e := .binary span left.expr op right.expr)
    (hQ.bind hl.type fun l => hQ.bind hr.type fun r => each_binaryType hQ span op l r)
    (each_binaryValue hQ span op hl hr)
  have joined : Q _ (some <$> concatenated left right) := hQ.map _ (each_concatenated hQ hl hr)
  exact { general with
    integer := each_ite (hQ.bind hl.integer fun a => hQ.bind hr.integer fun b =>
      each_integerOperation hQ span op a b) general.integer
    double := each_ite (hQ.bind hl.double fun a => hQ.bind hr.double fun b =>
      each_doubleOperation hQ span op a b) general.double
    text := hQ.asText op left.expr right.expr h joined general.text }

/-! ## Calls -/

theorem each_signature (span : Option Span) (name : String) (args : List Argument) :
    Q _ (signature span name args) := by
  unfold signature
  split
  · exact hQ.fail _ _
  · exact each_ite (hQ.pure _) (hQ.fail _ _)

theorem each_checkArguments (function : String) {args : List (Argument × ValueType)}
    (h : ∀ a ∈ args, a.1.reading.Each Q) (place : Nat) :
    Q _ (checkArguments function place args) := by
  induction args generalizing place with
  | nil => exact hQ.pure _
  | cons arg rest ih =>
    obtain ⟨harg, hrest⟩ := List.forall_mem_cons.1 h
    exact hQ.bind harg.type fun _ => each_ite (ih hrest _) (hQ.fail _ _)

theorem each_widened (function : String) (place : Nat) (span : Option Span) (t : ValueType)
    (v : Value) : Q _ (widened function place span t v) := by
  unfold widened
  split
  · exact hQ.map _ (hQ.orBreak _)
  · exact each_ite (hQ.pure _) (hQ.fail _ _)

theorem each_argumentValues (function : String) {args : List (Argument × ValueType)}
    (h : ∀ a ∈ args, a.1.reading.Each Q) (place : Nat) :
    Q _ (argumentValues function place args) := by
  induction args generalizing place with
  | nil => exact hQ.pure _
  | cons arg rest ih =>
    obtain ⟨harg, hrest⟩ := List.forall_mem_cons.1 h
    exact hQ.bind harg.value fun v => hQ.bind (each_widened hQ _ _ _ _ v) fun _ =>
      hQ.bind (ih hrest _) fun _ => hQ.pure _

theorem each_callResult (span : Option Span) (r : Builtin.CallResult) :
    Q _ (callResult span r) := by
  unfold callResult
  split
  · exact hQ.pure _
  · exact hQ.fail _ _
  · exact hQ.orBreak _

theorem each_call (span : Option Span) (name : String) (exprs : List Expr) {args : List Argument}
    (h : ∀ a ∈ args, a.reading.Each Q) : (call span name exprs args).Each Q := by
  have hm (f : Builtin) : ∀ a ∈ matched f args, a.1.reading.Each Q :=
    fun a ha => h a.1 (List.of_mem_zip ha).1
  refine each_ofValue hQ ?_ ?_
  · exact hQ.bind (each_signature hQ span name args) fun f =>
      hQ.bind (each_checkArguments hQ f.name (hm f) 0) fun _ => hQ.pure _
  · exact hQ.bind (each_signature hQ span name args) fun f =>
      hQ.bind (each_argumentValues hQ f.name (hm f) 0) fun _ => each_callResult hQ span _

/-! ## Containers -/

theorem each_outOfRange (span : Option Span) (base : Expr) (i : Int) :
    Q _ (outOfRange span base i) :=
  hQ.bind (hQ.orBreak _) fun _ => hQ.bind (hQ.orBreak _) fun _ => hQ.fail _ _

theorem each_element (span : Option Span) (base : Expr) (items : List Value) (i : Int) :
    Q _ (element span base items i) := by
  refine each_ite ?_ (each_outOfRange hQ span base i)
  split
  · exact hQ.pure _
  · exact each_outOfRange hQ span base i

theorem each_elementValue (span : Option Span) {base index : Operand}
    (hb : base.reading.Each Q) (hi : index.reading.Each Q) :
    Q _ (elementValue span base index) := by
  refine hQ.bind hb.stored fun array => ?_
  cases array with
  | array items =>
    refine hQ.bind hi.value fun i => ?_
    cases i with
    | integer i => exact each_element hQ span base.expr items i
    | _ => exact hQ.fail _ _
  | _ => exact hQ.fail _ _

theorem each_elementType (span : Option Span) {base index : Operand}
    (hb : base.reading.Each Q) (hi : index.reading.Each Q) :
    Q _ (elementType span base index) := by
  refine hQ.bind hb.type fun _ => each_ite (hQ.fail _ _) ?_
  refine hQ.bind hi.type fun _ => each_ite (hQ.fail _ _) ?_
  refine hQ.bind hb.stored fun array => hQ.bind (hQ.orBreak _) fun items => ?_
  cases items with
  | nil => exact hQ.fail _ _
  | cons first rest => exact hQ.pure _

theorem each_memberValue (span : Option Span) (base : Expr) (key : String)
    (entries : List (String × Option Value)) : Q _ (memberValue span base key entries) := by
  unfold memberValue
  split
  · exact hQ.pure _
  · exact hQ.bind (hQ.orBreak _) fun _ => hQ.fail _ _

theorem each_entry (span : Option Span) {map : Operand} (key : String)
    (hm : map.reading.Each Q) : (entry span map key).Each Q := by
  have stored : Q _ (entry span map key).stored := by
    refine hQ.bind hm.stored fun found => ?_
    cases found with
    | map entries => exact each_memberValue hQ span map.expr key entries
    | _ => exact hQ.fail _ _
  exact each_ofValue hQ (hQ.map _ stored) stored

theorem each_member (span : Option Span) {struct : Operand} (name : String)
    (hs : struct.reading.Each Q) : (member span struct name).Each Q := by
  have stored : Q _ (member span struct name).stored := by
    refine hQ.bind hs.stored fun found => ?_
    cases found with
    | struct members => exact each_memberValue hQ span struct.expr name members
    | _ => exact hQ.fail _ _
  exact each_ofValue hQ (hQ.map _ stored) stored

end Reading

/-! ## Expressions -/

namespace Expr

mutual

/-- A property that is composed is one of every reading of an expression, if looking up the names
in it has the property. -/
theorem reading_each (hQ : Eval.Compositional Q) :
    ∀ e : Expr, (∀ name ∈ e.names, Q _ (Eval.lookup name)) → e.reading.Each Q
  | absent, _ => Reading.each_absent hQ
  | literal _ _, _ => Reading.each_ofValue hQ (hQ.pure _) (hQ.pure _)
  | constant _ _ _, _ => Reading.each_ofValue hQ (hQ.pure _) (hQ.pure _)
  | named span name, h => Reading.each_named hQ span (h name (List.mem_singleton_self name))
  | unary span op operand, h => Reading.each_unary hQ span op (reading_each hQ operand h)
  | binary span left op right, h =>
    have ⟨hl, hr⟩ := List.forall_mem_append.1 h
    Reading.each_binary hQ span op (reading_each hQ left hl) (reading_each hQ right hr) h
  | call span name args, h => Reading.each_call hQ span name args (arguments_each hQ args h)
  | index span base i, h =>
    have ⟨hb, hi⟩ := List.forall_mem_append.1 h
    have hbase := reading_each hQ base hb
    have hindex := reading_each hQ i hi
    Reading.each_ofValue hQ (Reading.each_elementType hQ span hbase hindex)
      (Reading.each_elementValue hQ span hbase hindex)
  | entry span map key, h => Reading.each_entry hQ span key (reading_each hQ map h)
  | member span struct name, h => Reading.each_member hQ span name (reading_each hQ struct h)

theorem arguments_each (hQ : Eval.Compositional Q) :
    ∀ es : List Expr, (∀ name ∈ allNames es, Q _ (Eval.lookup name)) →
      ∀ a ∈ arguments es, a.reading.Each Q
  | [], _ => fun _ ha => absurd ha List.not_mem_nil
  | e :: rest, h =>
    have ⟨he, hr⟩ := List.forall_mem_append.1 h
    List.forall_mem_cons.2 ⟨reading_each hQ e he, arguments_each hQ rest hr⟩

end

end Expr

end DialogScript
