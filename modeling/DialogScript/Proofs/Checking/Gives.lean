import DialogScript.Check.Field
import DialogScript.Proofs.Typing.Calm

/-!
What a check gives in a settled session: one that binds homogeneous values and knows the branch
around a command wherever it knows the conditional. Such a check breaks down by arithmetic alone,
and the session stays settled; `Gives P m` is walked along the check by the lemmas for `pure`,
`bind` and the primitives.
-/

namespace DialogScript

/-- A session that binds homogeneous values, and has a branch around wherever a conditional is. -/
structure Session.Settled (s : Session) : Prop where
  homogeneous : s.table.Homogeneous
  placed : ∀ id, s.around.conditional = some id → ∃ branch, s.around.branch = some branch

namespace Check

variable {α β : Type} {P : α → Prop} {Q : β → Prop}

/-- In a settled session the check breaks down by arithmetic alone, gives something with `P` where
it passes, and leaves the session settled. -/
def Gives (P : α → Prop) (m : Check α) : Prop :=
  ∀ p s, s.Settled →
    (∀ b, (m p s).1 = .error (.broken b) → b.isArithmetic = true) ∧
      (∀ a, (m p s).1 = .ok a → P a) ∧ (m p s).2.Settled

/-- In a settled session the check breaks down by arithmetic alone and leaves the session
settled. -/
abbrev Calm (m : Check α) : Prop := Gives (fun _ => True) m

namespace Gives

/-- A check that ends in one way and leaves the table and the place as they are. -/
theorem of_ok {f : Place → Session → α} {g : Place → Session → List Diagnostic}
    (h : ∀ p s, s.Settled → P (f p s)) :
    Gives P fun p s => (.ok (f p s), { s with diagnostics := s.diagnostics ++ g p s }) := by
  intro p s hs
  refine ⟨fun b hb => ?_, fun a ha => ?_, hs.homogeneous, hs.placed⟩
  · cases hb
  · cases ha
    exact h p s hs

/-- A check that only reads. -/
theorem read {f : Place → Session → α} (h : ∀ p s, s.Settled → P (f p s)) :
    Gives P fun p s => (.ok (f p s), s) := by
  intro p s hs
  refine ⟨fun b hb => ?_, fun a ha => ?_, hs⟩
  · cases hb
  · cases ha
    exact h p s hs

theorem pure {a : α} (h : P a) : Gives P (Pure.pure a : Check α) := read fun _ _ _ => h

theorem failAt (problem : Problem) (span : Option Span) :
    Gives P (Check.failAt problem span : Check α) := by
  intro p s hs
  refine ⟨fun b hb => ?_, fun a ha => ?_, hs⟩
  · cases hb
  · cases ha

theorem fail (problem : Problem) : Gives P (Check.fail problem : Check α) := failAt problem none

theorem kind : Calm Check.kind := read fun _ _ _ => trivial

theorem host : Calm Check.host := read fun _ _ _ => trivial

theorem isBound (name : String) : Calm (Check.isBound name) := read fun _ _ _ => trivial

theorem singleton (which : Singleton) : Calm (Check.singleton which) := read fun _ _ _ => trivial

theorem lookup (name : String) :
    Gives (fun found => ∀ v, found = some v → v.Homogeneous) (Check.lookup name) :=
  read fun _ _ hs v hv => hs.homogeneous name v hv

theorem branchAround :
    Gives (fun around => ∀ id, around.1 = some id → ∃ branch, around.2 = some branch)
      Check.branchAround :=
  read fun _ _ hs => hs.placed

theorem write {w : SymbolTable.Write} (hw : w.Homogeneous) : Calm (Check.write w) := by
  intro p s hs
  refine ⟨fun b hb => ?_, fun _ _ => trivial, hs.homogeneous.apply hw, hs.placed⟩
  cases hb

theorem declare (name : String) {value : Value} (hv : value.Homogeneous) :
    Calm (Check.declare name value) := by
  intro p s hs
  refine ⟨fun b hb => ?_, fun _ _ => trivial, ?_, hs.placed⟩
  · cases hb
  · exact hs.homogeneous.apply (w := .declare name value) hv

theorem remark (r : Remark) : Calm (Check.remark r) := of_ok fun _ _ _ => trivial

theorem eval {m : Eval α} (h : ∀ s : Scope, (∀ name v, s.lookup name = some v → v.Homogeneous) →
    Eval.Calm s m) : Calm (Check.eval m) :=
  fun p s hs => ⟨h ⟨s.table.lookup, p.host.epsilon⟩ hs.homogeneous, fun _ _ => trivial,
    hs.homogeneous, hs.placed⟩

theorem bind {m : Check α} {f : α → Check β} (hm : Gives P m) (hf : ∀ a, P a → Gives Q (f a)) :
    Gives Q (m >>= f) := by
  intro p s hs
  obtain ⟨hb, ha, ht⟩ := hm p s hs
  rw [bind_apply]
  cases h : m p s with
  | mk result u =>
    rw [h] at hb ha ht
    cases result with
    | ok a => exact hf a (ha a rfl) p u ht
    | error e =>
      refine ⟨fun b he => ?_, fun b he => ?_, ht⟩
      · cases he
        exact hb b rfl
      · cases he

theorem map {m : Check α} {f : α → β} (hm : Gives P m) (h : ∀ a, P a → Q (f a)) :
    Gives Q (f <$> m) :=
  hm.bind fun a ha => pure (h a ha)

theorem ite {c : Prop} [Decidable c] {m n : Check α} (hm : Gives P m) (hn : Gives P n) :
    Gives P (if c then m else n) := by
  split
  · exact hm
  · exact hn

end Gives

end Check

end DialogScript
