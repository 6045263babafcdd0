import DialogScript.Eval.Reading
import DialogScript.Proofs.Typing.Builtins
import DialogScript.Proofs.Typing.Homogeneous
import DialogScript.Proofs.Typing.Safe

/-!
The readings of each form of expression agree: where the type reading gives a type, the value
reading gives a value of that type or fails as a typed expression may, and so does the text reading,
which concatenation uses on its operands. Values and stored values are homogeneous, since they are
bound ones, parts of bound ones, or no containers; without this an array element could have another
type than the first one, which decides the type of the index expression.
-/

namespace DialogScript

open Eval

/-- The readings of an expression agree at `s`. -/
structure Reading.Sound (s : Scope) (r : Reading) : Prop where
  value : ∀ t, (r.type s).result = .ok t → Safe s r.value (fun v => v.type = t)
  text : ∀ t, (r.type s).result = .ok t → Safe s r.text (fun _ => True)
  value_homogeneous : ∀ v, (r.value s).result = .ok v → v.Homogeneous
  stored_homogeneous : ∀ v, (r.stored s).result = .ok v → v.Homogeneous

namespace Reading

variable {s : Scope}

theorem notEvaluable_safe {α : Type} {P : α → Prop} (e : Expr) (target : String) :
    Safe s (notEvaluable e target) P :=
  .bind (.orBreak e.text_arithmetic (fun _ _ => trivial)) (fun _ _ _ => .fail _ rfl)

theorem textOf_safe (e : Expr) (v : Value) : Safe s (textOf e v) (fun _ => True) := by
  refine .bind (P := fun _ => True) (.orBreak v.scalarText?_arithmetic (fun _ _ => trivial)) ?_
  intro t _ _
  cases t with
  | none => exact notEvaluable_safe e _
  | some _ => exact .pure trivial

/-- An expression that is read through its value throughout has sound readings as soon as its value
has its type. -/
theorem sound_ofValue {e : Expr} {type : Eval ValueType} {value : Eval Value}
    (hv : ∀ t, (type s).result = .ok t → Safe s value (fun v => v.type = t))
    (hh : ∀ v, (value s).result = .ok v → v.Homogeneous) : (ofValue e type value).Sound s where
  value := hv
  text t ht := .bind (hv t ht) (fun v _ _ => textOf_safe e v)
  value_homogeneous := hh
  stored_homogeneous := hh

/-! ## Literals and names -/

theorem sound_absent : absent.Sound s where
  value t h := by cases h
  text t h := by cases h
  value_homogeneous v h := by cases h
  stored_homogeneous v h := by cases h

theorem literalValue_plain (l : Literal) : (literalValue l).type.isContainer = false := by
  cases l <;> rfl

theorem sound_literal (span : Option Span) (l : Literal) : (literal span l).Sound s := by
  refine sound_ofValue ?_ ?_
  · intro t h
    cases h
    exact .pure rfl
  · intro v h
    cases h
    exact .plain (literalValue_plain l)

theorem sound_constant (span : Option Span) (name : String) (x : Float) :
    (constant span name x).Sound s := by
  refine sound_ofValue ?_ ?_
  · intro t h
    cases h
    exact .pure rfl
  · intro v h
    cases h
    exact .plain rfl

theorem unbound_ok {α : Type} {span : Option Span} {name : String} {a b : α}
    (h : (unbound span name a s).result = .ok b) :
    Path.looksLikePath name = true ∧ a = b := by
  unfold unbound at h
  split at h
  · next hp =>
    obtain ⟨_, _, hb⟩ := bind_ok h
    exact ⟨hp, Except.ok.inj hb⟩
  · cases h

theorem unbound_safe {α : Type} {span : Option Span} {name : String} {a : α} {P : α → Prop}
    (hp : Path.looksLikePath name = true) (ha : P a) : Safe s (unbound span name a) P := by
  unfold unbound
  rw [if_pos hp]
  exact .bind (P := fun _ => True) (.of_ok rfl trivial) (fun _ _ _ => .pure ha)

theorem boundValue_ok {span : Option Span} {name : String} {v : Value}
    (h : (boundValue span name s).result = .ok v) : s.lookup name = some v := by
  obtain ⟨found, hf, hv⟩ := bind_ok h
  cases hf
  cases hs : s.lookup name with
  | none => rw [hs] at hv; cases hv
  | some w => rw [hs] at hv; cases hv; rfl

/-- A name is bound, or looks like a path and has the type of a text. -/
theorem named_type_ok {span : Option Span} {name : String} {t : ValueType}
    (h : ((named span name).type s).result = .ok t) :
    (∃ v, s.lookup name = some v ∧ v.type = t) ∨
      s.lookup name = none ∧ Path.looksLikePath name = true ∧ t = .string := by
  obtain ⟨found, hf, ht⟩ := bind_ok h
  cases hf
  cases hs : s.lookup name with
  | some v =>
    rw [hs] at ht
    exact .inl ⟨v, rfl, Except.ok.inj ht⟩
  | none =>
    rw [hs] at ht
    obtain ⟨hp, e⟩ := unbound_ok ht
    exact .inr ⟨rfl, hp, e.symm⟩

theorem sound_named (hom : ∀ name v, s.lookup name = some v → v.Homogeneous)
    (span : Option Span) (name : String) : (named span name).Sound s where
  value t h := by
    refine .bind (P := fun found => found = s.lookup name) (.of_ok rfl rfl) ?_
    rintro _ _ rfl
    rcases named_type_ok h with ⟨v, hv, ht⟩ | ⟨hn, hp, rfl⟩
    · rw [hv]
      exact .pure ht
    · rw [hn]
      exact unbound_safe hp rfl
  text t h := by
    refine .bind (P := fun found => found = s.lookup name) (.of_ok rfl rfl) ?_
    rintro _ _ rfl
    cases s.lookup name with
    | none => exact .pure trivial
    | some v =>
      exact .bind (P := fun _ => True) (.orBreak v.scalarText?_arithmetic fun _ _ => trivial)
        (fun _ _ _ => .pure trivial)
  value_homogeneous v h := by
    obtain ⟨found, hf, hv⟩ := bind_ok h
    cases hf
    cases hs : s.lookup name with
    | some w =>
      rw [hs] at hv
      cases hv
      exact hom name _ hs
    | none =>
      rw [hs] at hv
      obtain ⟨_, rfl⟩ := unbound_ok hv
      exact .plain rfl
  stored_homogeneous v h := hom name v (boundValue_ok h)

/-! ## Operators -/

theorem negated_safe (span : Option Span) {op : Operator} {v : Value} (ho : op = .minus)
    (hv : v.type.isNumeric = true) : Safe s (negated span op v) (fun w => w.type = v.type) := by
  cases v with
  | integer n => exact .ite (fun _ => .pure rfl) (fun h => absurd ho h)
  | double x => exact .ite (fun _ => .pure rfl) (fun h => absurd ho h)
  | _ => cases hv

theorem negated_plain {span : Option Span} {op : Operator} {v w : Value}
    (h : (negated span op v s).result = .ok w) : w.type.isContainer = false := by
  cases v with
  | integer n =>
    simp only [negated] at h
    split at h <;> cases h
    rfl
  | double x =>
    simp only [negated] at h
    split at h <;> cases h
    rfl
  | _ => cases h

theorem sound_unary (span : Option Span) (op : Operator) (operand : Operand)
    (ho : operand.reading.Sound s) : (unary span op operand).Sound s := by
  have hs : (ofValue (.unary span op operand.expr)
      (do
        let t ← operand.reading.type
        if op = .minus ∧ t.isNumeric then pure t else Eval.fail (.invalidOperand op t) span)
      (operand.reading.value >>= negated span op)).Sound s := by
    refine sound_ofValue ?_ ?_
    · intro t h
      obtain ⟨t', ht, hr⟩ := bind_ok h
      split at hr
      · next hc =>
        cases hr
        refine .bind (ho.value _ ht) ?_
        rintro v _ rfl
        exact negated_safe span hc.1 hc.2
      · cases hr
    · intro v h
      obtain ⟨_, _, hr⟩ := bind_ok h
      exact .plain (negated_plain hr)
  exact ⟨hs.value, hs.text, hs.value_homogeneous, hs.stored_homogeneous⟩

theorem concatText_safe {operand : Operand} (ht : Safe s operand.reading.text (fun _ => True)) :
    Safe s (concatText operand) (fun _ => True) :=
  .ite (fun _ => notEvaluable_safe _ _) (fun _ => .bind ht (fun _ _ _ => .pure trivial))

theorem concatenated_safe {left right : Operand}
    (hl : Safe s left.reading.text (fun _ => True))
    (hr : Safe s right.reading.text (fun _ => True)) :
    Safe s (concatenated left right) (fun _ => True) :=
  .bind (concatText_safe hl)
    (fun _ _ _ => .bind (concatText_safe hr) (fun _ _ _ => .pure trivial))

section Operators
variable {op : Operator}

theorem isLogical_of_isArithmetic (h : op.isArithmetic = true) : op.isLogical = false := by
  cases op <;> first | rfl | cases h

theorem isArithmetic_of_isEquality (h : op.isEquality = true) : op.isArithmetic = false := by
  cases op <;> first | rfl | cases h

theorem isArithmetic_of_isOrdering (h : op.isOrdering = true) : op.isArithmetic = false := by
  cases op <;> first | rfl | cases h

theorem isEquality_of_isOrdering (h : op.isOrdering = true) : op.isEquality = false := by
  cases op <;> first | rfl | cases h

end Operators

/-- The typing rules of binary expressions: the operator, the types of the operands and the type of
the result. -/
inductive BinaryTyped : Operator → ValueType → ValueType → ValueType → Prop
  | concatenation {l r : ValueType} : l = .string ∨ r = .string → BinaryTyped .plus l r .string
  | arithmetic {op : Operator} {l r : ValueType} : op.isArithmetic = true → l.isNumeric = true →
      r.isNumeric = true →
      BinaryTyped op l r (if op = .slash ∨ l = .double ∨ r = .double then .double else .integer)
  | logical {op : Operator} {l r : ValueType} : op.isLogical = true → BinaryTyped op l r .bool
  | equality {op : Operator} {l r : ValueType} : op.isEquality = true → l = r →
      l.isScalar = true → BinaryTyped op l r .bool
  | ordering {op : Operator} {l r : ValueType} : op.isOrdering = true → l = r →
      l.isNumeric = true → BinaryTyped op l r .bool

theorem binaryType_ok {span : Option Span} {op : Operator} {l r t : ValueType}
    (h : (binaryType span op l r s).result = .ok t) : BinaryTyped op l r t := by
  simp only [binaryType] at h
  split at h
  · next hc =>
    cases h
    obtain ⟨rfl, hc⟩ := hc
    exact .concatenation hc
  split at h
  · next ho =>
    split at h
    · next hn =>
      cases h
      simp only [Bool.and_eq_true] at hn
      exact .arithmetic ho hn.1 hn.2
    · cases h
  split at h
  · next ho =>
    split at h
    · cases h
      exact .logical ho
    · cases h
  · next ha hl =>
    split at h
    · cases h
    next he =>
    obtain rfl := Decidable.not_not.mp he
    split at h
    · cases h
    next hn =>
    split at h
    · cases h
    next hsc =>
    cases h
    simp only [Bool.not_eq_true', Bool.not_eq_false] at hsc
    -- what is neither arithmetic nor logical compares
    cases op <;> first | exact .equality rfl rfl hsc | skip
    all_goals first | exact absurd rfl ha | exact absurd rfl hl | skip
    all_goals exact .ordering rfl rfl (by simpa [Operator.isOrdering] using hn)

theorem isCondition_of_isNumeric {t : ValueType} (h : t.isNumeric = true) :
    t.isCondition = true := by
  cases t <;> first | rfl | cases h

theorem arithmetic_safe (span : Option Span) (op : Operator) {a b : Value}
    (ha : a.type.isNumeric = true) (hb : b.type.isNumeric = true) :
    Safe s (arithmetic span op a b) (fun v => v.type =
      if op = .slash ∨ a.type = .double ∨ b.type = .double then .double else .integer) := by
  refine .bind (P := fun _ => True)
    (.orBreak (Value.asNumber_arithmetic (isCondition_of_isNumeric ha)) fun _ _ => trivial) ?_
  intro x _ _
  refine .bind (P := fun _ => True)
    (.orBreak (Value.asNumber_arithmetic (isCondition_of_isNumeric hb)) fun _ _ => trivial) ?_
  intro y _ _
  cases a <;> try cases ha
  all_goals cases b <;> try cases hb
  all_goals
    cases op with
    | slash => exact .ite (fun _ => .fail _ rfl) (fun _ => .pure rfl)
    | _ => exact .pure rfl

theorem epsilon_safe : Safe s Eval.epsilon (fun _ => True) := .of_ok rfl trivial

theorem doubles_safe {a b : Value} {k : Float → Float → Eval Bool}
    (ha : a.type.isCondition = true) (hb : b.type.isCondition = true)
    (hk : ∀ x y, Safe s (k x y) (fun _ => True)) :
    Safe s (do
      let x ← Eval.orBreak a.asNumber
      let y ← Eval.orBreak b.asNumber
      k x y) (fun _ => True) := by
  refine .bind (P := fun _ => True) (.orBreak (Value.asNumber_arithmetic ha) fun _ _ => trivial) ?_
  intro x _ _
  refine .bind (P := fun _ => True) (.orBreak (Value.asNumber_arithmetic hb) fun _ _ => trivial) ?_
  exact fun y _ _ => hk x y

theorem integers_safe {a b : Value} {k : Int → Int → Bool} (ha : a.type.isCondition = true)
    (hb : b.type.isCondition = true) (hd : ¬(a.type = .double ∨ b.type = .double)) :
    Safe s (do
      let x ← Eval.orBreak a.asInteger
      let y ← Eval.orBreak b.asInteger
      pure (k x y)) (fun _ => True) := by
  obtain ⟨hda, hdb⟩ := not_or.mp hd
  refine .bind (P := fun _ => True)
    (.orBreak (Value.asInteger_arithmetic ha hda) fun _ _ => trivial) ?_
  intro x _ _
  refine .bind (P := fun _ => True)
    (.orBreak (Value.asInteger_arithmetic hb hdb) fun _ _ => trivial) ?_
  exact fun y _ _ => .pure trivial

theorem isCondition_of_isScalar {t : ValueType} (h : t.isScalar = true) (hs : t ≠ .string) :
    t.isCondition = true := by
  cases t <;> first | rfl | exact absurd rfl hs | cases h

theorem equal_safe (span : Option Span) (op : Operator) {a b : Value} (ht : a.type = b.type)
    (hs : a.type.isScalar = true) : Safe s (equal span op a b) (fun _ => True) := by
  by_cases hstr : a.type = .string
  · obtain ⟨x, rfl⟩ := Builtin.string_of_type hstr
    obtain ⟨y, rfl⟩ := Builtin.string_of_type ht.symm
    exact .pure trivial
  · -- All scalars but texts are compared as numbers.
    have ha := isCondition_of_isScalar hs hstr
    have hb : b.type.isCondition = true := ht ▸ ha
    have hu : equal span op a b =
        if a.type.isScalar && b.type.isScalar then
          if a.type = .double ∨ b.type = .double then do
            let x ← Eval.orBreak a.asNumber
            let y ← Eval.orBreak b.asNumber
            let epsilon ← Eval.epsilon
            pure (decide ((x - y).abs ≤ epsilon))
          else do
            let x ← Eval.orBreak a.asInteger
            let y ← Eval.orBreak b.asInteger
            pure (x == y)
        else Eval.fail (.invalidOperands op a.type b.type) span := by
      cases a <;> cases b <;> first | exact absurd rfl hstr | rfl | cases ht
    rw [hu]
    refine .ite (fun _ => .ite (fun _ => ?_) (fun hd => ?_)) (fun hn => ?_)
    · exact doubles_safe ha hb (fun _ _ => .bind epsilon_safe (fun _ _ _ => .pure trivial))
    · exact integers_safe ha hb hd
    · simp [← ht, hs] at hn

theorem ordered_safe (span : Option Span) (op : Operator) {a b : Value}
    (ha : a.type.isCondition = true) (hb : b.type.isCondition = true) :
    Safe s (ordered span op a b) (fun _ => True) := by
  refine .ite (fun _ => .ite (fun _ => ?_) (fun hd => ?_)) (fun hn => ?_)
  · exact doubles_safe ha hb (fun _ _ => .bind epsilon_safe (fun _ _ _ => .pure trivial))
  · exact integers_safe ha hb hd
  · simp [ha, hb] at hn

theorem logical_safe (op : Operator) {left right : Eval Value} {P Q : Value → Prop}
    (hl : Safe s left P) (hr : Safe s right Q) :
    Safe s (logical op left right) (fun v => v.type = .bool) := by
  refine .bind hl (fun a _ _ => .ite (fun _ => .pure rfl) (fun _ => .ite (fun _ => .pure rfl) ?_))
  exact fun _ => .bind hr (fun b _ _ => .pure rfl)

theorem binaryValue_safe (span : Option Span) {op : Operator} {left right : Operand}
    {l r t : ValueType} (ht : BinaryTyped op l r t)
    (hl : Safe s left.reading.value (fun v => v.type = l))
    (hr : Safe s right.reading.value (fun v => v.type = r))
    (hlt : Safe s left.reading.text (fun _ => True))
    (hrt : Safe s right.reading.text (fun _ => True)) :
    Safe s (binaryValue span op left right) (fun v => v.type = t) := by
  unfold binaryValue
  -- A logical operator may leave its right operand alone; any other has the values of both.
  refine .ite (fun hlog => ?_) (fun hlog => .bind hl fun a _ ha => .bind hr fun b _ hb => ?_)
  · have : t = .bool := by
      cases ht with
      | concatenation _ => cases hlog
      | arithmetic ho _ _ => rw [isLogical_of_isArithmetic ho] at hlog; cases hlog
      | _ => rfl
    exact this ▸ logical_safe op hl hr
  · subst ha hb
    cases ht with
    | concatenation hc =>
      rw [if_pos ⟨rfl, hc⟩]
      exact .map (concatenated_safe hlt hrt) (fun _ _ => rfl)
    | arithmetic ho hna hnb =>
      rw [if_neg (by rintro ⟨_, hs | hs⟩ <;> simp_all [ValueType.isNumeric]), if_pos ho,
        if_pos (by simp [hna, hnb])]
      exact arithmetic_safe span op hna hnb
    | logical ho => exact absurd ho hlog
    | equality ho he hs =>
      rw [if_neg (by rintro ⟨rfl, _⟩; cases ho),
        if_neg (by rw [isArithmetic_of_isEquality ho]; simp), if_pos ho]
      exact .bind (equal_safe span op he hs) (fun _ _ _ => .pure rfl)
    | ordering ho he hn =>
      have hc := isCondition_of_isNumeric hn
      rw [if_neg (by rintro ⟨rfl, _⟩; cases ho),
        if_neg (by rw [isArithmetic_of_isOrdering ho]; simp),
        if_neg (by rw [isEquality_of_isOrdering ho]; simp)]
      exact .map (ordered_safe span op hc (he ▸ hc)) (fun _ _ => rfl)

theorem logical_plain {op : Operator} {left right : Eval Value} {v : Value}
    (h : (logical op left right s).result = .ok v) : v.type.isContainer = false := by
  obtain ⟨a, _, h⟩ := bind_ok h
  split at h
  · cases h
    rfl
  split at h
  · cases h
    rfl
  · obtain ⟨b, _, h⟩ := bind_ok h
    cases h
    rfl

theorem binaryValue_plain {span : Option Span} {op : Operator} {left right : Operand} {v : Value}
    (h : (binaryValue span op left right s).result = .ok v) : v.type.isContainer = false := by
  unfold binaryValue at h
  split at h
  · exact logical_plain h
  obtain ⟨a, _, h⟩ := bind_ok h
  obtain ⟨b, _, h⟩ := bind_ok h
  split at h
  · obtain ⟨x, _, rfl⟩ := map_ok h
    rfl
  split at h
  · split at h
    · next hn =>
      simp only [Bool.and_eq_true] at hn
      rw [(arithmetic_safe span op hn.1 hn.2).1 v h]
      split <;> rfl
    · cases h
  split at h
  · obtain ⟨same, _, h⟩ := bind_ok h
    cases h
    rfl
  · obtain ⟨holds, _, rfl⟩ := map_ok h
    rfl

theorem sound_binary (span : Option Span) (op : Operator) (left right : Operand)
    (hl : left.reading.Sound s) (hr : right.reading.Sound s) :
    (binary span left op right).Sound s := by
  have typed : ∀ t, ((binary span left op right).type s).result = .ok t →
      ∃ a b, (left.reading.type s).result = .ok a ∧ (right.reading.type s).result = .ok b ∧
        BinaryTyped op a b t := by
    intro t h
    obtain ⟨a, ha, h⟩ := bind_ok h
    obtain ⟨b, hb, h⟩ := bind_ok h
    exact ⟨a, b, ha, hb, binaryType_ok h⟩
  have general : (ofValue (.binary span left.expr op right.expr) (binary span left op right).type
      (binaryValue span op left right)).Sound s := by
    refine sound_ofValue ?_ (fun v h => .plain (binaryValue_plain h))
    intro t h
    obtain ⟨a, b, ha, hb, ht⟩ := typed t h
    exact binaryValue_safe span ht (hl.value a ha) (hr.value b hb) (hl.text a ha) (hr.text b hb)
  -- Read as a text, a concatenation asks its operands for texts, not for values.
  refine ⟨general.value, ?_, general.value_homogeneous, general.stored_homogeneous⟩
  intro t h
  obtain ⟨a, b, ha, hb, _⟩ := typed t h
  refine .bind (P := fun _ => True) (.of_ok rfl trivial) (fun scope _ _ => .ite (fun _ => ?_) ?_)
  · exact .map (concatenated_safe (hl.text a ha) (hr.text b hb)) (fun _ _ => trivial)
  · exact fun _ => general.text t h

/-! ## Calls -/

theorem signature_ok {span : Option Span} {name : String} {args : List Argument} {f : Builtin}
    (h : (signature span name args s).result = .ok f) : args.length = f.signature.arity := by
  unfold signature at h
  cases hn : Builtin.ofName? name with
  | none =>
    rw [hn] at h
    cases h
  | some g =>
    simp only [hn] at h
    split at h
    · next hl =>
      cases h
      exact hl
    · cases h

theorem matched_types {f : Builtin} {args : List Argument}
    (h : args.length = f.signature.arity) :
    (matched f args).map Prod.snd = f.signature.params.map Prod.snd := by
  apply List.map_snd_zip
  rw [List.length_map, h]
  exact Nat.le_refl _

/-- Only an integer for a double is widened; any other value is passed on or refused. -/
theorem widened_cases (function : String) (place : Nat) (span : Option Span) (t : ValueType)
    (v : Value) : (∃ n, v = .integer n ∧ t = .double) ∨
      ¬(v.type = .integer ∧ t = .double) ∧ widened function place span t v =
        if v.type = t then pure v
        else Eval.fail (.argumentType function place t v.type) span := by
  cases v <;> cases t <;>
    first | exact .inl ⟨_, rfl, rfl⟩ | exact .inr ⟨by simp [Value.type], rfl⟩

theorem widened_ok {function : String} {place : Nat} {span : Option Span} {t : ValueType}
    {v w : Value} (h : (widened function place span t v s).result = .ok w) : w.type = t := by
  rcases widened_cases function place span t v with ⟨n, rfl, rfl⟩ | ⟨hw, he⟩
  · obtain ⟨x, _, rfl⟩ := map_ok h
    rfl
  · rw [he] at h
    split at h
    · next ht =>
      cases h
      exact ht
    · cases h

theorem widened_safe (function : String) (place : Nat) (span : Option Span) {t : ValueType}
    {v : Value} (h : t.accepts v.type = true) :
    Safe s (widened function place span t v) (fun _ => True) := by
  rcases widened_cases function place span t v with ⟨n, rfl, rfl⟩ | ⟨hw, he⟩
  · exact .map (.orBreak (Number.toDouble_arithmetic n) fun _ _ => trivial) (fun _ _ => trivial)
  · rw [he]
    refine .ite (fun _ => .pure trivial) (fun hn => ?_)
    simp only [ValueType.accepts, Bool.or_eq_true, Bool.and_eq_true, beq_iff_eq] at h
    rcases h with rfl | ⟨rfl, hv⟩
    · exact absurd rfl hn
    · exact absurd ⟨hv, rfl⟩ hw

theorem argumentValues_ok {function : String} {args : List (Argument × ValueType)} :
    ∀ {place : Nat} {values : List Value},
    (argumentValues function place args s).result = .ok values →
    values.map Value.type = args.map Prod.snd := by
  induction args with
  | nil =>
    intro place values h
    cases h
    rfl
  | cons arg rest ih =>
    intro place values h
    obtain ⟨v, _, h⟩ := bind_ok h
    obtain ⟨w, hw, h⟩ := bind_ok h
    obtain ⟨others, ho, h⟩ := bind_ok h
    cases h
    rw [List.map_cons, List.map_cons, widened_ok hw, ih ho]

theorem argumentValues_safe (function : String) {args : List (Argument × ValueType)}
    (hs : ∀ a ∈ args, a.1.reading.Sound s) : ∀ {place : Nat},
    (checkArguments function place args s).result = .ok () →
    Safe s (argumentValues function place args) (fun _ => True) := by
  induction args with
  | nil => exact fun _ => .pure trivial
  | cons arg rest ih =>
    intro place h
    obtain ⟨found, hf, h⟩ := bind_ok h
    split at h
    · next hc =>
      refine .bind ((hs arg List.mem_cons_self).value found hf) ?_
      rintro v _ rfl
      refine .bind (widened_safe function place arg.1.span hc) (fun w _ _ => ?_)
      refine .bind (ih (fun a ha => hs a (List.mem_cons_of_mem arg ha)) h) ?_
      exact fun _ _ _ => .pure trivial
    · cases h

theorem callResult_safe (span : Option Span) {t : ValueType} {r : Builtin.CallResult}
    (h : Builtin.Gives t r) : Safe s (callResult span r) (fun v => v.type = t) := by
  rcases r with (e | b) | v
  · exact .fail _ rfl
  · exact .of_error rfl (h.2 b rfl)
  · exact .pure (h.1 v rfl)

theorem callResult_ok {span : Option Span} {r : Builtin.CallResult} {v : Value}
    (h : (callResult span r s).result = .ok v) : r = .ok v := by
  rcases r with (e | b) | w <;> cases h
  rfl

theorem sound_call (span : Option Span) (name : String) (exprs : List Expr)
    {args : List Argument} (hs : ∀ a ∈ args, a.reading.Sound s) :
    (call span name exprs args).Sound s := by
  have hm : ∀ f : Builtin, ∀ a ∈ matched f args, a.1.reading.Sound s :=
    fun f a ha => hs a.1 (List.of_mem_zip ha).1
  refine sound_ofValue ?_ ?_
  · intro t h
    obtain ⟨f, hf, h⟩ := bind_ok h
    obtain ⟨_, hc, h⟩ := bind_ok h
    cases h
    refine .bind (P := fun g => g = f) (.of_ok hf rfl) ?_
    rintro _ _ rfl
    refine .bind (argumentValues_safe _ (hm _) hc) (fun values hv _ => ?_)
    exact callResult_safe span
      (Builtin.call_gives _ ((argumentValues_ok hv).trans (matched_types (signature_ok hf))))
  · intro v h
    obtain ⟨f, hf, h⟩ := bind_ok h
    obtain ⟨values, hv, h⟩ := bind_ok h
    have ht := (Builtin.call_gives f
      ((argumentValues_ok hv).trans (matched_types (signature_ok hf)))).1 v (callResult_ok h)
    exact .plain (ht ▸ Builtin.returns_not_container f)

/-! ## Containers -/

theorem outOfRange_safe {P : Value → Prop} (span : Option Span) (base : Expr) (i : Int) :
    Safe s (outOfRange span base i) P := by
  have hbase : Safe s (Eval.orBreak base.text) (fun _ => True) :=
    .orBreak base.text_arithmetic (fun _ _ => trivial)
  have hindex : Safe s (Eval.orBreak (Number.checkWritable [i])) (fun _ => True) :=
    .orBreak (Number.checkWritable_arithmetic [i]) (fun _ _ => trivial)
  exact .bind hbase (fun _ _ _ => .bind hindex (fun _ _ _ => .fail _ rfl))

theorem element_safe (span : Option Span) (base : Expr) (items : List Value) (i : Int) :
    Safe s (element span base items i) (fun v => v ∈ items) := by
  refine .ite (fun _ => ?_) (fun _ => outOfRange_safe span base i)
  split
  · next v hv => exact .pure (List.mem_of_getElem? hv)
  · exact outOfRange_safe span base i

theorem element_ok {span : Option Span} {base : Expr} {items : List Value} {i : Int} {v : Value}
    (h : (element span base items i s).result = .ok v) : v ∈ items :=
  (element_safe span base items i).1 v h

theorem elementValue_ok {span : Option Span} {base index : Operand} {v : Value}
    (h : (elementValue span base index s).result = .ok v) :
    ∃ items, (base.reading.stored s).result = .ok (.array items) ∧ v ∈ items := by
  obtain ⟨array, ha, h⟩ := bind_ok h
  split at h
  · next items =>
    obtain ⟨i, _, h⟩ := bind_ok h
    split at h
    · exact ⟨items, ha, element_ok h⟩
    · cases h
  · cases h

/-- An index expression has the type of the first element. -/
theorem elementType_ok {span : Option Span} {base index : Operand} {t : ValueType}
    (h : (elementType span base index s).result = .ok t) :
    (index.reading.type s).result = .ok .integer ∧
      ∃ first rest, (base.reading.stored s).result = .ok (.array (first :: rest)) ∧
        first.type = t := by
  obtain ⟨baseType, _, h⟩ := bind_ok h
  split at h
  · cases h
  obtain ⟨indexType, hi, h⟩ := bind_ok h
  split at h
  · cases h
  next hn =>
  obtain rfl := Decidable.not_not.mp hn
  obtain ⟨array, ha, h⟩ := bind_ok h
  obtain ⟨items, hr, h⟩ := bind_ok h
  refine ⟨hi, ?_⟩
  cases array <;> cases hr
  cases items with
  | nil => cases h
  | cons first rest => exact ⟨first, rest, ha, Except.ok.inj h⟩

theorem sound_index (span : Option Span) (base index : Operand) (hb : base.reading.Sound s)
    (hi : index.reading.Sound s) : (Reading.index span base index).Sound s := by
  refine sound_ofValue ?_ ?_
  · intro t h
    obtain ⟨ht, first, rest, ha, rfl⟩ := elementType_ok h
    refine .bind (P := fun array => array = .array (first :: rest)) (.of_ok ha rfl) ?_
    rintro _ _ rfl
    refine .bind (hi.value .integer ht) (fun i _ hint => ?_)
    obtain ⟨n, rfl⟩ := Builtin.integer_of_type hint
    -- homogeneity carries the type of the first element over to the one at the index
    refine (element_safe span base.expr (first :: rest) n).mono (fun v hv => ?_)
    exact (hb.stored_homogeneous _ ha).items_type hv List.mem_cons_self
  · intro v h
    obtain ⟨items, ha, hv⟩ := elementValue_ok h
    exact (hb.stored_homogeneous _ ha).item hv

theorem memberValue_ok {span : Option Span} {base : Expr} {key : String}
    {entries : List (String × Option Value)} {v : Value}
    (h : (memberValue span base key entries s).result = .ok v) : (key, some v) ∈ entries := by
  unfold memberValue at h
  cases hj : (entries.lookup key).join with
  | none =>
    rw [hj] at h
    obtain ⟨text, -, hfail⟩ := bind_ok h
    cases hfail
  | some w =>
    rw [hj] at h
    cases h
    obtain ⟨before, after, rfl, _⟩ := List.lookup_eq_some_iff.mp (Option.join_eq_some_iff.mp hj)
    exact List.mem_append_right before List.mem_cons_self

/-- An access expression is typed by the very value that it refers to. -/
theorem sound_ofStored {e : Expr} {stored : Eval Value}
    (hh : ∀ v, (stored s).result = .ok v → v.Homogeneous) :
    (ofValue e (Value.type <$> stored) stored).Sound s := by
  refine sound_ofValue ?_ hh
  intro t h
  obtain ⟨v, hv, ht⟩ := map_ok h
  exact .of_ok hv ht

theorem sound_entry (span : Option Span) (map : Operand) (key : String)
    (hm : map.reading.Sound s) : (entry span map key).Sound s := by
  refine sound_ofStored ?_
  intro v h
  obtain ⟨found, hf, h⟩ := bind_ok h
  split at h
  · exact (hm.stored_homogeneous _ hf).entry (memberValue_ok h)
  · cases h

theorem sound_member (span : Option Span) (struct : Operand) (name : String)
    (hs : struct.reading.Sound s) : (member span struct name).Sound s := by
  refine sound_ofStored ?_
  intro v h
  obtain ⟨found, hf, h⟩ := bind_ok h
  split at h
  · exact (hs.stored_homogeneous _ hf).member (memberValue_ok h)
  · cases h

end Reading

end DialogScript
