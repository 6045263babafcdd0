import DialogScript.Eval.Basic
import DialogScript.Proofs.Typing.Arithmetic

/-!
Safe computations: those that give what is promised, or fail in one of the ways that a static type
does not exclude. `Safe s m P` is walked along the computation by the lemmas for `pure`, `bind` and
the primitives, so that each reading of an expression has a short proof.
-/

namespace DialogScript

/-- The problems that an expression can meet although it has a static type: an operand of a
concatenation without a text, arguments outside the domain of a built-in function, a divisor that
is zero, an index outside its array. -/
def Problem.isDynamic : Problem → Bool
  | notEvaluable .. | refused _ | divisionByZero | indexOutOfRange .. => true
  | _ => false

theorem Problem.code_of_isDynamic {p : Problem} (h : p.isDynamic = true) :
    p.code ∈ ["E208", "E301", "E304", "E506"] := by
  cases p <;> simp [isDynamic] at h <;> simp [code]

/-- The failures that an expression can meet although it has a static type. -/
def Failure.isDynamic : Failure → Bool
  | error e => e.problem.isDynamic
  | broken b => b.isArithmetic

namespace Eval

variable {α β : Type} {s : Scope}

theorem result_bind (m : Eval α) (f : α → Eval β) :
    ((m >>= f) s).result = (m s).result >>= fun a => (f a s).result := by
  rw [bind_apply]
  rcases m s with ⟨w, (e | a)⟩ <;> rfl

theorem result_map (f : α → β) (m : Eval α) : ((f <$> m) s).result = (m s).result.map f := by
  rw [map_eq_pure_bind, result_bind]
  cases (m s).result <;> rfl

theorem bind_ok {m : Eval α} {f : α → Eval β} {b : β} (h : ((m >>= f) s).result = .ok b) :
    ∃ a, (m s).result = .ok a ∧ (f a s).result = .ok b := by
  rw [result_bind] at h
  cases hm : (m s).result with
  | error e => rw [hm] at h; cases h
  | ok a => rw [hm] at h; exact ⟨a, rfl, h⟩

theorem map_ok {f : α → β} {m : Eval α} {b : β} (h : ((f <$> m) s).result = .ok b) :
    ∃ a, (m s).result = .ok a ∧ f a = b := by
  rw [result_map] at h
  cases hm : (m s).result with
  | error e => rw [hm] at h; cases h
  | ok a => rw [hm] at h; exact ⟨a, rfl, Except.ok.inj h⟩

/-- At `s`, `m` gives something with `P`, or fails as an expression with a static type may. -/
def Safe (s : Scope) (m : Eval α) (P : α → Prop) : Prop :=
  (∀ a, (m s).result = .ok a → P a) ∧ ∀ f, (m s).result = .error f → f.isDynamic = true

namespace Safe

variable {P : α → Prop} {Q : β → Prop}

theorem of_ok {m : Eval α} {a : α} (hm : (m s).result = .ok a) (ha : P a) : Safe s m P := by
  constructor
  · intro b h
    rw [hm] at h
    cases h
    exact ha
  · intro f h
    rw [hm] at h
    cases h

theorem of_error {m : Eval α} {f : Failure} (hm : (m s).result = .error f)
    (hf : f.isDynamic = true) : Safe s m P := by
  constructor
  · intro b h
    rw [hm] at h
    cases h
  · intro g h
    rw [hm] at h
    cases h
    exact hf

theorem pure {a : α} (h : P a) : Safe s (pure a : Eval α) P := of_ok rfl h

theorem bind {m : Eval α} {f : α → Eval β} (hm : Safe s m P)
    (hf : ∀ a, (m s).result = .ok a → P a → Safe s (f a) Q) : Safe s (m >>= f) Q := by
  cases h : (m s).result with
  | ok a =>
    have he : ((m >>= f) s).result = (f a s).result := by rw [result_bind, h]; rfl
    obtain ⟨h₁, h₂⟩ := hf a h (hm.1 a h)
    exact ⟨fun b hb => h₁ b (he ▸ hb), fun g hg => h₂ g (he ▸ hg)⟩
  | error g =>
    have he : ((m >>= f) s).result = .error g := by rw [result_bind, h]; rfl
    exact of_error he (hm.2 g h)

theorem mono {P' : α → Prop} {m : Eval α} (hm : Safe s m P) (h : ∀ a, P a → P' a) : Safe s m P' :=
  ⟨fun a ha => h a (hm.1 a ha), hm.2⟩

theorem map {f : α → β} {m : Eval α} (hm : Safe s m P) (h : ∀ a, P a → Q (f a)) :
    Safe s (f <$> m) Q := by
  rw [map_eq_pure_bind]
  exact bind hm (fun a _ ha => pure (h a ha))

theorem fail {p : Problem} (span : Option Span) (h : p.isDynamic = true) :
    Safe s (Eval.fail p span : Eval α) P := of_error rfl h

theorem orBreak {r : Except Breakdown α} (hr : Arithmetic r) (hP : ∀ a, r = .ok a → P a) :
    Safe s (Eval.orBreak r) P := by
  cases r with
  | ok a => exact of_ok rfl (hP a rfl)
  | error b => exact of_error rfl (hr b rfl)

theorem ite {c : Prop} [Decidable c] {m m' : Eval α} (h : c → Safe s m P) (h' : ¬c → Safe s m' P) :
    Safe s (if c then m else m') P := by
  by_cases hc : c
  · simp only [hc, if_true]; exact h hc
  · simp only [hc, if_false]; exact h' hc

end Safe

end Eval

end DialogScript
