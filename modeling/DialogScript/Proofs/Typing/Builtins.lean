import DialogScript.Builtin.Apply
import DialogScript.Proofs.Typing.Arithmetic

/-!
What a built-in function gives for arguments of the types of its signature: a value of the type that
the signature promises, or a refusal, or a breakdown of arithmetic. The functions are taken by
families, since those of a family share their signature and the shape of their result.
-/

namespace DialogScript.Builtin

/-- A call that gives a value of a type, or is refused, or breaks down by arithmetic alone. -/
def Gives (t : ValueType) (r : CallResult) : Prop :=
  (∀ v, r = .ok v → v.type = t) ∧ ∀ b, r = .error (.broken b) → b.isArithmetic = true

theorem gives_ok {t : ValueType} {v : Value} (h : v.type = t) : Gives t (.ok v) := by
  constructor
  · intro v' e
    cases e
    exact h
  · intro b e
    cases e

theorem gives_refused (t : ValueType) (e : BuiltinError) : Gives t (.error (.refused e)) := by
  constructor <;> intro _ h <;> cases h

theorem gives_broken (t : ValueType) {b : Breakdown} (h : b.isArithmetic = true) :
    Gives t (.error (.broken b)) := by
  constructor
  · intro v e
    cases e
  · intro b' e
    cases e
    exact h

/-! ## Arguments of a signature -/

section Arguments
variable {args : List Value}

theorem double_of_type {v : Value} (h : v.type = .double) : ∃ x, v = .double x := by
  cases v <;> simp [Value.type] at h
  exact ⟨_, rfl⟩

theorem integer_of_type {v : Value} (h : v.type = .integer) : ∃ n, v = .integer n := by
  cases v <;> simp [Value.type] at h
  exact ⟨_, rfl⟩

theorem string_of_type {v : Value} (h : v.type = .string) : ∃ s, v = .string s := by
  cases v <;> simp [Value.type] at h
  exact ⟨_, rfl⟩

theorem one_double (h : args.map Value.type = [.double]) : ∃ x, args = [.double x] := by
  obtain ⟨v, rfl, hv⟩ := List.map_eq_singleton_iff.mp h
  obtain ⟨x, rfl⟩ := double_of_type hv
  exact ⟨x, rfl⟩

theorem one_string (h : args.map Value.type = [.string]) : ∃ s, args = [.string s] := by
  obtain ⟨v, rfl, hv⟩ := List.map_eq_singleton_iff.mp h
  obtain ⟨s, rfl⟩ := string_of_type hv
  exact ⟨s, rfl⟩

theorem double_then {ts : List ValueType} (h : args.map Value.type = .double :: ts) :
    ∃ x rest, args = .double x :: rest ∧ rest.map Value.type = ts := by
  obtain ⟨v, rest, rfl, hv, hr⟩ := List.map_eq_cons_iff.mp h
  obtain ⟨x, rfl⟩ := double_of_type hv
  exact ⟨x, rest, rfl, hr⟩

theorem two_doubles (h : args.map Value.type = [.double, .double]) :
    ∃ x y, args = [.double x, .double y] := by
  obtain ⟨x, rest, rfl, hr⟩ := double_then h
  obtain ⟨y, rfl⟩ := one_double hr
  exact ⟨x, y, rfl⟩

theorem double_integer (h : args.map Value.type = [.double, .integer]) :
    ∃ x n, args = [.double x, .integer n] := by
  obtain ⟨x, rest, rfl, hr⟩ := double_then h
  obtain ⟨v, rfl, hv⟩ := List.map_eq_singleton_iff.mp hr
  obtain ⟨n, rfl⟩ := integer_of_type hv
  exact ⟨x, n, rfl⟩

theorem two_doubles_integer (h : args.map Value.type = [.double, .double, .integer]) :
    ∃ a b n, args = [.double a, .double b, .integer n] := by
  obtain ⟨a, rest, rfl, hr⟩ := double_then h
  obtain ⟨b, n, rfl⟩ := double_integer hr
  exact ⟨a, b, n, rfl⟩

theorem two_strings (h : args.map Value.type = [.string, .string]) :
    ∃ a b, args = [.string a, .string b] := by
  obtain ⟨v, rest, rfl, hv, hr⟩ := List.map_eq_cons_iff.mp h
  obtain ⟨a, rfl⟩ := string_of_type hv
  obtain ⟨b, rfl⟩ := one_string hr
  exact ⟨a, b, rfl⟩

end Arguments

/-! ## Results of a family -/

theorem orRefused_gives (f : Builtin) (args : List Float) (r : Except Breakdown Float) :
    Gives .double (orRefused f args r) := by
  cases r with
  | ok x => exact gives_ok rfl
  | error b => exact gives_refused _ _

theorem orBroken_gives {α : Type} {t : ValueType} {r : Except Breakdown α} {value : α → Value}
    (hr : Arithmetic r) (ht : ∀ a, (value a).type = t) : Gives t (orBroken (r.map value)) := by
  cases r with
  | ok a => exact gives_ok (ht a)
  | error b => exact gives_broken _ (hr b rfl)

theorem modulo_gives (x y : Float) : Gives .double (modulo x y) := by
  unfold modulo
  split
  · exact gives_refused _ _
  · exact orBroken_gives (Number.remainder_arithmetic x y) fun _ => rfl

theorem scaleBack_arithmetic (n : Int) (factor : Float) : Arithmetic (scaleBack n factor) :=
  .bind (Number.toDouble_arithmetic n) (fun _ => .ite (.error rfl) (.ok _))

theorem roundTo_arithmetic (x : Float) (digits : Int) : Arithmetic (roundTo x digits) := by
  refine .bind (Number.tenTo_arithmetic digits) (fun factor => .ite ?_ ?_)
  · exact .bind (Number.integral_arithmetic _ _) (fun n => scaleBack_arithmetic n factor)
  · exact .bind (Number.integral_arithmetic _ _) (fun n => scaleBack_arithmetic (-n) factor)

theorem within_gives (test : Float → Bool) (places : Int) : Gives .bool (within test places) := by
  have h : Arithmetic (tolerance places) :=
    .bind (Number.tenTo_arithmetic (-places)) (fun _ => .ok _)
  exact orBroken_gives h fun _ => rfl

/-- A function that reads a text as a number or a truth value refuses what it cannot read. -/
theorem reader_gives {f : Builtin} (hf : f ∈ [stof, stoi, stob]) (s : String) :
    Gives f.signature.returns (onStrings f [.string s]) := by
  simp only [List.mem_cons, List.not_mem_nil, or_false] at hf
  rcases hf with rfl | rfl | rfl
  all_goals
    unfold onStrings
    dsimp only
    split
    · exact gives_ok rfl
    · exact gives_refused _ _

theorem call_unary {f : Builtin} {g : Float → Except Breakdown Float} (h : f.unary? = some g)
    (x : Float) : f.call [.double x] = orRefused f [x] (g x) := by
  unfold call
  rw [h]

theorem call_string (f : Builtin) (s : String) (rest : List Value) :
    f.call (.string s :: rest) = f.onStrings (.string s :: rest) := by
  unfold call
  split <;> simp_all

theorem call_gives (f : Builtin) {args : List Value}
    (h : args.map Value.type = f.signature.params.map Prod.snd) :
    Gives f.signature.returns (f.call args) := by
  cases f with
  | pow =>
    obtain ⟨x, y, rfl⟩ := two_doubles h
    exact orRefused_gives _ _ _
  | mod =>
    obtain ⟨x, y, rfl⟩ := two_doubles h
    exact modulo_gives x y
  | round =>
    obtain ⟨x, n, rfl⟩ := double_integer h
    exact orBroken_gives (roundTo_arithmetic x n) fun _ => rfl
  | equal | less | lessOrEqual | greater | greaterOrEqual =>
    obtain ⟨a, b, n, rfl⟩ := two_doubles_integer h
    exact within_gives _ n
  | strFind | strFindCs | strCmp | strCmpCs =>
    obtain ⟨a, b, rfl⟩ := two_strings h
    rw [call_string]
    exact gives_ok rfl
  | stof | stoi | stob =>
    obtain ⟨s, rfl⟩ := one_string h
    rw [call_string]
    exact reader_gives (by decide) s
  | strLen | asc | isNumber | isInteger | isDouble =>
    obtain ⟨s, rfl⟩ := one_string h
    rw [call_string]
    exact gives_ok rfl
  | _ =>
    obtain ⟨x, rfl⟩ := one_double h
    rw [call_unary rfl]
    exact orRefused_gives _ _ _

theorem returns_not_container (f : Builtin) : f.signature.returns.isContainer = false := by
  cases f <;> rfl

end DialogScript.Builtin
