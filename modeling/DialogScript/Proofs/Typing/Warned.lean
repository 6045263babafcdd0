import DialogScript.Proofs.Typing.Composed

/-!
The warnings of an evaluation are of one sort: a name without a value is taken for the name of a
file, since it looks like a path.
-/

namespace DialogScript

/-- A warning that a name is taken for the name of a file, which it looks like. -/
def Raised.OfPath (r : Raised) : Prop :=
  ∃ name, r.remark = .pathName name ∧ Path.looksLikePath name = true

namespace Eval

variable {α β : Type}

/-- A computation whose warnings are all of paths, whatever is bound. -/
def WarnsOfPaths (m : Eval α) : Prop := ∀ s, ∀ r ∈ (m s).raised, r.OfPath

namespace WarnsOfPaths

theorem of_silent {m : Eval α} (h : ∀ s, (m s).raised = []) : WarnsOfPaths m := by
  intro s r hr
  rw [h s] at hr
  exact absurd hr List.not_mem_nil

theorem orBreak (r : Except Breakdown α) : WarnsOfPaths (Eval.orBreak r) := by
  cases r with
  | ok a => exact of_silent fun _ => rfl
  | error b => exact of_silent fun _ => rfl

theorem unbound (span : Option Span) (name : String) (a : α) :
    WarnsOfPaths (Reading.unbound span name a) := by
  intro s r hr
  unfold Reading.unbound at hr
  split at hr
  · next hpath =>
    obtain rfl : r = ⟨.pathName name, span⟩ := List.mem_singleton.1 hr
    exact ⟨name, rfl, hpath⟩
  · exact absurd hr List.not_mem_nil

theorem bind {m : Eval α} {f : α → Eval β} (hm : WarnsOfPaths m) (hf : ∀ a, WarnsOfPaths (f a)) :
    WarnsOfPaths (m >>= f) := by
  intro s r hr
  have first := hm s
  rw [bind_apply] at hr
  generalize m s = found at first hr
  rcases found with ⟨raised, e | a⟩
  · exact first r hr
  · exact (List.mem_append.1 hr).elim (first r) (hf a s r)

/-- Where the scope is read, what follows is told at each. -/
theorem scope {f : Scope → Eval α} (h : ∀ s, WarnsOfPaths (f s)) :
    WarnsOfPaths (Eval.scope >>= f) := bind (of_silent fun _ => rfl) h

theorem compositional : Compositional fun _ => WarnsOfPaths where
  pure _ := of_silent fun _ => rfl
  fail _ _ := of_silent fun _ => rfl
  orBreak := orBreak
  epsilon := of_silent fun _ => rfl
  unbound := unbound
  bind := bind
  asText op left right m m' _ hm hm' := by
    refine scope fun s => ?_
    split
    · exact hm
    · exact hm'

end WarnsOfPaths

end Eval

/-- Every reading of an expression warns of paths only. -/
theorem Expr.reading_warnsOfPaths (e : Expr) : e.reading.Each fun _ => Eval.WarnsOfPaths :=
  reading_each Eval.WarnsOfPaths.compositional e fun _ _ => .of_silent fun _ => rfl

end DialogScript
