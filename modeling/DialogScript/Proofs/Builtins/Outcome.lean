import DialogScript.Proofs.Decimal.Finite
import DialogScript.Proofs.Evaluation.Operation
import DialogScript.Proofs.Typing.Builtins

/-!
How the built-in functions end. For arguments of the types of its signature a function gives a value
of the type that the signature promises or refuses its arguments; only the remainder and the
functions that scale by powers of ten can break down instead. They do so at an infinite dividend,
where the power or its exponent has no double, and where the scaled number is infinite or undefined
or is scaled back by zero. A call whose arguments are evaluated to such values ends in the same way.
-/

namespace DialogScript

namespace Number

open Decimal

/-- Why a power of ten has no double: its exponent is beyond the largest one, or the power is. -/
inductive Unscaled (exponent : Int) : Breakdown → Prop
  | exponent : tooLarge ≤ exponent.natAbs → Unscaled exponent .integerTooLarge
  | power {e : Float} : toDouble exponent = .ok e → (Float.pow 10.0 e).isInf = true →
      Unscaled exponent .powerTooLarge

theorem tenTo_eq_error_iff {exponent : Int} {b : Breakdown} :
    tenTo exponent = .error b ↔ Unscaled exponent b := by
  cases h : toDouble exponent with
  | error c =>
    have broken : tenTo exponent = .error c := by
      rw [tenTo, h]
      rfl
    obtain ⟨hl, rfl⟩ := toDouble_eq_error_iff.1 h
    rw [broken]
    constructor
    · rintro ⟨⟩
      exact .exponent hl
    · intro hu
      cases hu with
      | exponent => rfl
      | power he => rw [h] at he; cases he
  | ok e =>
    have scaled : tenTo exponent =
        if (Float.pow 10.0 e).isInf then .error .powerTooLarge else .ok (Float.pow 10.0 e) := by
      rw [tenTo, h]
      rfl
    rw [scaled]
    constructor
    · intro hb
      split at hb
      · next hi =>
        cases hb
        exact .power h hi
      · cases hb
    · intro hu
      cases hu with
      | exponent hl =>
        rw [toDouble_eq_error_iff.2 ⟨hl, rfl⟩] at h
        cases h
      | power he hi =>
        rw [he] at h
        cases h
        rw [if_pos hi]

theorem remainder_of_infinite {x y : Float} {negative : Bool}
    (hx : Double.ofFloat x = .infinite negative) (hy : ¬y.isNaN = true) :
    remainder x y = .error .outsideDomain := by
  have kind := ofFloat_kind y
  rw [remainder, hx]
  cases h : Double.ofFloat y with
  | nan =>
    rw [h] at kind
    exact absurd kind hy
  | infinite => rfl
  | finite => rfl

/-- Only an infinite number has no remainder, unless the divisor is no number. -/
theorem remainder_eq_error_iff {x y : Float} {b : Breakdown} :
    remainder x y = .error b ↔ x.isInf = true ∧ y.isNaN = false ∧ b = .outsideDomain := by
  rcases kind_cases x with ⟨hn, hi, -⟩ | ⟨-, hi, -⟩ | ⟨-, hi, hf⟩
  · rw [remainder, ofFloat_of_isNaN hn]
    exact iff_of_false (fun h => by cases h) (fun h => Bool.eq_false_iff.1 hi h.1)
  · obtain ⟨negative, hx⟩ := ofFloat_of_isInf hi
    by_cases hn : y.isNaN = true
    · rw [remainder, hx, ofFloat_of_isNaN hn]
      exact iff_of_false (fun h => by cases h) (fun h => Bool.eq_false_iff.1 h.2.1 hn)
    · rw [remainder_of_infinite hx hn]
      exact ⟨fun h => by cases h; exact ⟨hi, Bool.eq_false_iff.2 hn, rfl⟩,
        fun ⟨_, _, h⟩ => by rw [h]⟩
  · obtain ⟨d, hx, -⟩ := ofFloat_of_isFinite hf
    rw [remainder, hx]
    cases Double.ofFloat y <;>
      exact iff_of_false (fun h => by cases h) (fun h => Bool.eq_false_iff.1 hi h.1)

end Number

namespace Builtin

open Number (Unscaled tenTo tenTo_eq_error_iff toDouble)
open Decimal (kind_cases)

/-! ## Rounding -/

/-- The number that rounding takes the integral part of. -/
def scaled (x factor : Float) : Float :=
  if x >= 0.0 then x * factor + 0.5 else -x * factor + 0.5

/-- Why a number cannot be rounded: there is no power of ten to scale it by, the scaled number is no
number or infinite, or it is scaled back by zero. -/
inductive Unrounded (x : Float) (digits : Int) : Breakdown → Prop
  | unscaled {b : Breakdown} : Unscaled digits b → Unrounded x digits b
  | undefined {factor : Float} : tenTo digits = .ok factor → (scaled x factor).isNaN = true →
      Unrounded x digits .undefinedInteger
  | infinite {factor : Float} : tenTo digits = .ok factor → (scaled x factor).isInf = true →
      Unrounded x digits .infiniteInteger
  | vanished {factor : Float} : tenTo digits = .ok factor → (scaled x factor).isFinite = true →
      (factor == 0.0) = true → Unrounded x digits .zeroScale

theorem roundTo_of_tenTo {x factor : Float} {digits : Int} (h : tenTo digits = .ok factor) :
    roundTo x digits = Number.floor (scaled x factor) >>= fun n =>
      scaleBack (if x >= 0.0 then n else -n) factor := by
  rw [roundTo, h, scaled]
  split <;> rfl

theorem scaleBack_of_toDouble {n : Int} {y factor : Float} (h : toDouble n = .ok y) :
    scaleBack n factor = if factor == 0.0 then .error .zeroScale else .ok (y / factor) := by
  rw [scaleBack, h]
  rfl

theorem roundTo_of_isFinite {x factor : Float} {digits : Int} (h : tenTo digits = .ok factor)
    (hf : (scaled x factor).isFinite = true) :
    ∃ y, roundTo x digits = if factor == 0.0 then .error .zeroScale else .ok (y / factor) := by
  obtain ⟨n, y, z, hn, hy, hz⟩ := Number.floor_of_isFinite hf
  rw [roundTo_of_tenTo h, hn]
  by_cases hx : x >= 0.0
  · exact ⟨y, (congrArg (scaleBack · factor) (if_pos hx)).trans (scaleBack_of_toDouble hy)⟩
  · exact ⟨z, (congrArg (scaleBack · factor) (if_neg hx)).trans (scaleBack_of_toDouble hz)⟩

theorem roundTo_eq_error_iff {x : Float} {digits : Int} {b : Breakdown} :
    roundTo x digits = .error b ↔ Unrounded x digits b := by
  constructor
  · intro hb
    cases h : tenTo digits with
    | error c =>
      rw [roundTo, h] at hb
      cases hb
      exact .unscaled (tenTo_eq_error_iff.1 h)
    | ok factor =>
      -- the integral part decides; of a finite number it can always be widened again
      rcases kind_cases (scaled x factor) with ⟨hn, -⟩ | ⟨-, hi, -⟩ | ⟨-, -, hf⟩
      · rw [roundTo_of_tenTo h, Number.floor_of_isNaN hn] at hb
        cases hb
        exact .undefined h hn
      · rw [roundTo_of_tenTo h, Number.floor_of_isInf hi] at hb
        cases hb
        exact .infinite h hi
      · obtain ⟨y, hy⟩ := roundTo_of_isFinite h hf
        rw [hy] at hb
        split at hb
        · next hz =>
          cases hb
          exact .vanished h hf hz
        · cases hb
  · intro hu
    cases hu with
    | unscaled hs =>
      rw [roundTo, tenTo_eq_error_iff.2 hs]
      rfl
    | undefined h hn =>
      rw [roundTo_of_tenTo h, Number.floor_of_isNaN hn]
      rfl
    | infinite h hi =>
      rw [roundTo_of_tenTo h, Number.floor_of_isInf hi]
      rfl
    | vanished h hf hz =>
      obtain ⟨y, hy⟩ := roundTo_of_isFinite h hf
      rw [hy, if_pos hz]

theorem tolerance_eq_error_iff {places : Int} {b : Breakdown} :
    tolerance places = .error b ↔ Unscaled (-places) b := by
  rw [← tenTo_eq_error_iff, tolerance]
  cases tenTo (-places) with
  | error c => exact Iff.rfl
  | ok unit => exact iff_of_false (fun h => by cases h) (fun h => by cases h)

/-! ## Breaking down -/

/-- The comparisons up to a number of decimal places. -/
def tolerant : List Builtin := [equal, less, lessOrEqual, greater, greaterOrEqual]

/-- The calls that break down instead of being refused. -/
inductive Unguarded : Builtin → List Value → Breakdown → Prop
  | remainder {x y : Float} : x.isInf = true → y.isNaN = false → (y == 0.0) = false →
      Unguarded mod [.double x, .double y] .outsideDomain
  | rounding {x : Float} {digits : Int} {b : Breakdown} : Unrounded x digits b →
      Unguarded round [.double x, .integer digits] b
  | tolerance {f : Builtin} {x y : Float} {places : Int} {b : Breakdown} : f ∈ tolerant →
      Unscaled (-places) b → Unguarded f [.double x, .double y, .integer places] b

section
variable {f : Builtin} {args : List Value} {b : Breakdown}

theorem Unguarded.mem (h : Unguarded f args b) : f ∈ mod :: round :: tolerant := by
  cases h with
  | remainder => decide
  | rounding => decide
  | tolerance hf => exact List.mem_cons_of_mem _ (List.mem_cons_of_mem _ hf)

theorem orBroken_eq_broken_iff {α : Type} {r : Except Breakdown α} {value : α → Value} :
    orBroken (r.map value) = .error (.broken b) ↔ r = .error b := by
  cases r with
  | error c => simp [orBroken, Except.map]
  | ok a => simp [orBroken, Except.map]

theorem orRefused_ne_broken {xs : List Float} (r : Except Breakdown Float) :
    orRefused f xs r ≠ .error (.broken b) := by
  cases r <;> simp [orRefused]

theorem modulo_eq_broken_iff {x y : Float} : modulo x y = .error (.broken b) ↔
    Unguarded mod [.double x, .double y] b := by
  rw [modulo]
  split
  · next hz =>
    refine iff_of_false (fun h => by cases h) fun h => ?_
    cases h with
    | remainder _ _ hy => rw [hz] at hy; cases hy
  · next hz =>
    rw [orBroken_eq_broken_iff, Number.remainder_eq_error_iff]
    constructor
    · rintro ⟨hx, hy, rfl⟩
      exact .remainder hx hy (Bool.eq_false_iff.2 hz)
    · intro h
      cases h with
      | remainder hx hy => exact ⟨hx, hy, rfl⟩

theorem reader_ne_broken (hf : f ∈ [stof, stoi, stob]) (s : String) :
    onStrings f [.string s] ≠ .error (.broken b) := by
  simp only [List.mem_cons, List.not_mem_nil, or_false] at hf
  rcases hf with rfl | rfl | rfl
  all_goals
    unfold onStrings
    dsimp only
    split <;> intro h <;> cases h

/-- A call breaks down just where it is not guarded. -/
theorem call_eq_broken_iff (h : args.map Value.type = f.signature.params.map Prod.snd) :
    f.call args = .error (.broken b) ↔ Unguarded f args b := by
  cases f with
  | mod =>
    obtain ⟨x, y, rfl⟩ := two_doubles h
    exact modulo_eq_broken_iff
  | round =>
    obtain ⟨x, digits, rfl⟩ := double_integer h
    refine (orBroken_eq_broken_iff.trans roundTo_eq_error_iff).trans ⟨.rounding, fun hu => ?_⟩
    cases hu with
    | rounding hr => exact hr
  | equal | less | lessOrEqual | greater | greaterOrEqual =>
    obtain ⟨x, y, places, rfl⟩ := two_doubles_integer h
    refine (orBroken_eq_broken_iff.trans tolerance_eq_error_iff).trans
      ⟨.tolerance (by decide), fun hu => ?_⟩
    cases hu with
    | tolerance _ hs => exact hs
  -- no other function breaks down, whatever its arguments, and none is listed as unguarded
  | pow =>
    obtain ⟨x, y, rfl⟩ := two_doubles h
    exact iff_of_false (orRefused_ne_broken _) fun hu => absurd hu.mem (by decide)
  | strFind | strFindCs | strCmp | strCmpCs =>
    obtain ⟨x, y, rfl⟩ := two_strings h
    rw [call_string]
    exact iff_of_false (fun hb => by cases hb) fun hu => absurd hu.mem (by decide)
  | stof | stoi | stob =>
    obtain ⟨s, rfl⟩ := one_string h
    rw [call_string]
    exact iff_of_false (reader_ne_broken (by decide) s) fun hu => absurd hu.mem (by decide)
  | strLen | asc | isNumber | isInteger | isDouble =>
    obtain ⟨s, rfl⟩ := one_string h
    rw [call_string]
    exact iff_of_false (fun hb => by cases hb) fun hu => absurd hu.mem (by decide)
  | _ =>
    obtain ⟨x, rfl⟩ := one_double h
    rw [call_unary rfl]
    exact iff_of_false (orRefused_ne_broken _) fun hu => absurd hu.mem (by decide)

end

end Builtin

/-! ## Calls of an expression -/

section
variable {s : Scope} {exprs : List Expr} {args : List Value}

theorem Reading.argumentValues_of_eval {ts : List ValueType}
    (hv : List.Forall₂ (fun e v => (Expr.eval e s).result = .ok v) exprs args)
    (ht : args.map Value.type = ts) (function : String) (place : Nat) :
    (argumentValues function place ((Expr.arguments exprs).zip ts) s).result = .ok args := by
  induction hv generalizing ts place with
  | nil => rfl
  | @cons e v es vs he _ ih =>
    subst ht
    have same : widened function place e.span v.type v = pure v := by
      cases v <;> simp [widened, Value.type]
    have rest := ih rfl (place + 1)
    rw [Expr.arguments, List.map_cons, List.zip_cons_cons, argumentValues]
    refine (Eval.result_bind_of_ok he _).trans ?_
    rw [same]
    exact (Eval.result_bind_of_ok rfl _).trans (Eval.result_bind_of_ok rest _)

/-- A call of arguments that are evaluated to values of the types of the parameters gives what the
function gives for these. -/
theorem Expr.eval_call {f : Builtin} {name : String} (hf : Builtin.ofName? name = some f)
    (hv : List.Forall₂ (fun e v => (Expr.eval e s).result = .ok v) exprs args)
    (ht : args.map Value.type = f.signature.params.map Prod.snd) (span : Option Span) :
    ((Expr.call span name exprs).eval s).result =
      (Reading.callResult span (f.call args) s).result := by
  have count : (arguments exprs).length = f.signature.arity := by
    have := congrArg List.length ht
    rw [List.length_map, List.length_map] at this
    rw [arguments_eq_map, List.length_map, hv.length_eq, this]
    rfl
  have known : Reading.signature span name (arguments exprs) = pure f := by
    rw [Reading.signature, hf]
    exact if_pos count
  change ((Reading.signature span name (arguments exprs) >>= fun g =>
    Reading.argumentValues g.name 0 (Reading.matched g (arguments exprs)) >>= fun values =>
      Reading.callResult span (g.call values)) s).result = _
  rw [known]
  refine (Eval.result_bind_of_ok rfl _).trans ?_
  exact Eval.result_bind_of_ok (Reading.argumentValues_of_eval hv ht f.name 0) _

end

/-- For arguments of the types of its signature, a function breaks down just where it is not
guarded, and gives a value of the promised type or refuses its arguments everywhere else. A call of
arguments that are evaluated to these gives that value, fails at the call with the refusal, or
breaks down as the function does. -/
theorem Builtin.call_outcomes (f : Builtin) {args : List Value}
    (h : args.map Value.type = f.signature.params.map Prod.snd) :
    (∀ b, f.call args = .error (.broken b) ↔ Unguarded f args b) ∧
    ((∀ b, ¬Unguarded f args b) →
      (∃ v, f.call args = .ok v ∧ v.type = f.signature.returns) ∨
        ∃ e, f.call args = .error (.refused e)) ∧
    ∀ (s : Scope) (span : Option Span) (name : String) (exprs : List Expr),
      ofName? name = some f →
      List.Forall₂ (fun e v => (Expr.eval e s).result = .ok v) exprs args →
      (∃ v, f.call args = .ok v ∧ ((Expr.call span name exprs).eval s).result = .ok v) ∨
      (∃ e, f.call args = .error (.refused e) ∧
        ((Expr.call span name exprs).eval s).result = .error (.error ⟨.refused e, span⟩) ∧
        (Problem.refused e).code = "E301") ∨
      ∃ b, f.call args = .error (.broken b) ∧
        ((Expr.call span name exprs).eval s).result = .error (.broken b) := by
  refine ⟨fun b => call_eq_broken_iff h, fun guarded => ?_, fun s span name exprs hf hv => ?_⟩
  · cases hr : f.call args with
    | ok v => exact .inl ⟨v, rfl, (call_gives f h).1 v hr⟩
    | error c =>
      cases c with
      | refused e => exact .inr ⟨e, rfl⟩
      | broken b => exact absurd ((call_eq_broken_iff h).1 hr) (guarded b)
  · have evaluated := Expr.eval_call hf hv h span
    cases hr : f.call args with
    | ok v => exact .inl ⟨v, rfl, by rw [evaluated, hr]; rfl⟩
    | error c =>
      cases c with
      | refused e => exact .inr (.inl ⟨e, rfl, by rw [evaluated, hr]; rfl, rfl⟩)
      | broken b => exact .inr (.inr ⟨b, rfl, by rw [evaluated, hr]; rfl⟩)

theorem Builtin.call_outcomes_text :
    (∃ e, stoi.call [.string "1.5"] = .error (.refused e)) ∧
    (∀ b, ¬Unguarded stoi [.string "1.5"] b) ∧
    ∀ s, ∃ e, ((Expr.call none "stoi" [.literal none (.string "1.5")]).eval s).result =
      .error (.error ⟨.refused e, none⟩) := by
  have refused : stoi.call [.string "1.5"] = .error (.refused (.notInteger "1.5")) := by
    have unread : Numeral.integer? "1.5" = none := by decide
    rw [call_string]
    unfold onStrings
    dsimp only
    rw [unread]
  have typed : [Value.string "1.5"].map Value.type = stoi.signature.params.map Prod.snd := rfl
  obtain ⟨broken, given, evaluated⟩ := call_outcomes stoi typed
  have guarded : ∀ b, ¬Unguarded stoi [.string "1.5"] b := fun b hu => by
    rw [← broken, refused] at hu
    cases hu
  refine ⟨?_, guarded, fun s => ?_⟩
  · rcases given guarded with ⟨v, hv, -⟩ | he
    · rw [refused] at hv
      cases hv
    · exact he
  · have named : ofName? "stoi" = some stoi := by decide
    rcases evaluated s none "stoi" [.literal none (.string "1.5")] named (.cons rfl .nil) with
      ⟨v, hv, -⟩ | ⟨e, -, he, -⟩ | ⟨b, hb, -⟩
    · rw [refused] at hv
      cases hv
    · exact ⟨e, he⟩
    · rw [refused] at hb
      cases hb

/-- An infinite number has no remainder, and there is no power of ten with an exponent beyond the
largest double. Neither is refused: both calls break down, and so does an evaluation of the
first. -/
theorem Builtin.call_outcomes_unguarded :
    mod.call [.double Numeral.infinity, .double 3.0] = .error (.broken .outsideDomain) ∧
    round.call [.double 2.5, .integer Number.tooLarge] = .error (.broken .integerTooLarge) ∧
    ∀ s, ((Expr.call none "mod" [.constant none "INF" Numeral.infinity,
      .literal none (.double 3.0)]).eval s).result = .error (.broken .outsideDomain) := by
  have remainder : mod.call [.double Numeral.infinity, .double 3.0] =
      .error (.broken .outsideDomain) :=
    (call_eq_broken_iff rfl).2 (.remainder (by decide) (by decide) (by decide))
  have rounding : round.call [.double 2.5, .integer Number.tooLarge] =
      .error (.broken .integerTooLarge) :=
    (call_eq_broken_iff rfl).2 (.rounding (.unscaled (.exponent (Nat.le_refl _))))
  refine ⟨remainder, rounding, fun s => ?_⟩
  have named : ofName? "mod" = some mod := by decide
  have values : List.Forall₂ (fun e v => (Expr.eval e s).result = .ok v)
      [.constant none "INF" Numeral.infinity, .literal none (.double 3.0)]
      [.double Numeral.infinity, .double 3.0] := .cons rfl (.cons rfl .nil)
  rw [Expr.eval_call named values rfl none, remainder]
  rfl

end DialogScript
