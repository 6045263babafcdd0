import DialogScript.Proofs.Typing.Composed
import DialogScript.Table.Basic

/-!
The names that an expression mentions are all of the table that its readings depend on. Two scopes
that bind them alike give every reading the same result and the same warnings.
-/

namespace DialogScript

variable {s u : Scope}

namespace Eval

/-- `m` gives the same at `s` and at `u`: the same result, with the same warnings. -/
def Same {α : Type} (s u : Scope) (m : Eval α) : Prop := m s = m u

namespace Same

variable {α β : Type}

theorem orBreak (r : Except Breakdown α) : Same s u (Eval.orBreak r) := by
  cases r <;> rfl

theorem lookup_iff {name : String} :
    Same s u (Eval.lookup name) ↔ s.lookup name = u.lookup name := by
  unfold Same Eval.lookup
  constructor
  · intro h
    injection h with _ h
    injection h
  · intro h
    rw [h]

theorem bind {m : Eval α} {f : α → Eval β} (hm : Same s u m) (hf : ∀ a, Same s u (f a)) :
    Same s u (m >>= f) := by
  unfold Same at hm ⊢
  rw [bind_apply, bind_apply, hm]
  rcases m u with ⟨raised, e | a⟩
  · rfl
  · dsimp only
    rw [hf a]

/-- Where the scope is read, what follows is told by each of the two. -/
theorem scope {f : Scope → Eval α} (h : f s s = f u u) : Same s u (Eval.scope >>= f) := by
  show (⟨[] ++ (f s s).raised, (f s s).result⟩ : Evaluated α) = _
  rw [h]
  rfl

end Same

end Eval

/-- Whether an expression counts as a text depends on the names in it only. -/
theorem Reading.isText_congr {f g : String → Option Value} :
    ∀ e : Expr, (∀ name ∈ e.names, f name = g name) → isText f e = isText g e
  | .named _ name, h => by rw [isText, isText, h name (List.mem_singleton_self name)]
  | .binary _ left op right, h => by
    obtain ⟨hleft, hright⟩ := List.forall_mem_append.1 h
    cases op with
    | plus => rw [isText, isText, isText_congr left hleft, isText_congr right hright]
    | _ => rfl
  | .literal _ l, _ => by cases l <;> rfl
  | .absent, _ | .constant .., _ | .unary .., _ | .call .., _ | .index .., _ | .entry .., _
  | .member .., _ => rfl

/-- Giving the same at two scopes of one tolerance is a property that composing keeps. -/
theorem Eval.Same.compositional (he : s.epsilon = u.epsilon) :
    Eval.Compositional fun _ => Eval.Same s u where
  pure _ := rfl
  fail _ _ := rfl
  orBreak := Eval.Same.orBreak
  epsilon := by
    show (⟨[], .ok s.epsilon⟩ : Evaluated Float) = _
    rw [he]
    rfl
  unbound span name a := by
    unfold Reading.unbound
    split <;> rfl
  bind := Eval.Same.bind
  asText op left right m m' h hm hm' := by
    obtain ⟨hl, hr⟩ := List.forall_mem_append.1 fun name hn => Eval.Same.lookup_iff.1 (h name hn)
    refine Eval.Same.scope ?_
    rw [Reading.isText_congr left hl, Reading.isText_congr right hr]
    split
    · exact hm
    · exact hm'

namespace Expr

theorem reading_same (he : s.epsilon = u.epsilon) (e : Expr)
    (h : ∀ name ∈ e.names, s.lookup name = u.lookup name) :
    e.reading.Each fun _ => Eval.Same s u :=
  reading_each (Eval.Same.compositional he) e fun name hn => Eval.Same.lookup_iff.2 (h name hn)

/-- Two tables that bind the names in an expression alike, or leave them unbound alike, give it the
same type, the same value and the same readings as a number or a text, or the same failure, and the
same warnings on the way. -/
theorem readings_of_names (e : Expr) {t u : SymbolTable} (epsilon : Float)
    (h : ∀ name ∈ e.names, t.lookup name = u.lookup name) :
    e.typeOf ⟨t.lookup, epsilon⟩ = e.typeOf ⟨u.lookup, epsilon⟩ ∧
      e.eval ⟨t.lookup, epsilon⟩ = e.eval ⟨u.lookup, epsilon⟩ ∧
      e.evalInteger ⟨t.lookup, epsilon⟩ = e.evalInteger ⟨u.lookup, epsilon⟩ ∧
      e.evalDouble ⟨t.lookup, epsilon⟩ = e.evalDouble ⟨u.lookup, epsilon⟩ ∧
      e.evalText ⟨t.lookup, epsilon⟩ = e.evalText ⟨u.lookup, epsilon⟩ := by
  have same := reading_same (s := ⟨t.lookup, epsilon⟩) (u := ⟨u.lookup, epsilon⟩) rfl e h
  exact ⟨same.type, same.value, same.integer, same.double, same.text⟩

/-- A name joined with one that looks like a path. -/
def joinedNames : Expr := .binary none (.named none "A") .plus (.named none "dir/a.gif")

theorem readings_of_names_joined :
    let t := SymbolTable.apply {} (.declare "A" (.string "x"))
    let u := t.apply (.declare "Z" (.string "z"))
    u.lookup "Z" ≠ t.lookup "Z" ∧
      joinedNames.eval ⟨t.lookup, Scope.defaultEpsilon⟩ =
        joinedNames.eval ⟨u.lookup, Scope.defaultEpsilon⟩ ∧
      (joinedNames.eval ⟨u.lookup, Scope.defaultEpsilon⟩).result = .ok (.string "xdir/a.gif") ∧
      (joinedNames.eval ⟨u.lookup, Scope.defaultEpsilon⟩).raised =
        [⟨.pathName "dir/a.gif", none⟩] := by
  refine ⟨nofun, ?_, rfl, rfl⟩
  refine (readings_of_names joinedNames _ fun name hname => ?_).2.1
  rcases List.mem_cons.1 hname with rfl | hname
  · rfl
  · obtain rfl := List.mem_singleton.1 hname
    rfl

end Expr

end DialogScript
