import DialogScript.Problem.Diagnostic
import DialogScript.Value.Basic

/-!
Evaluation against the bound names. A computation reads the bindings and the tolerance, gives the
warnings it raises on the way, and ends in a result or a failure; the warnings raised before a
failure are kept.
-/

namespace DialogScript

/-- What an expression is evaluated against: the bindings, and how near two doubles must be to count
as equal. -/
structure Scope where
  lookup : String → Option Value
  epsilon : Float

/-- The tolerance where none is given. -/
def Scope.defaultEpsilon : Float := 1e-9

/-- The warnings that a computation raised, and its result or failure. -/
structure Evaluated (α : Type) where
  raised : List Raised
  result : Except Failure α

/-- The warnings of a computation, as they are shown. -/
def Evaluated.warnings {α : Type} (r : Evaluated α) : List Diagnostic :=
  r.raised.map Raised.diagnostic

/-- Computations against a scope. -/
def Eval (α : Type) : Type := Scope → Evaluated α

namespace Eval

instance : Monad Eval where
  pure a := fun _ => ⟨[], .ok a⟩
  bind m f := fun s =>
    match m s with
    | ⟨raised, .ok a⟩ => ⟨raised ++ (f a s).raised, (f a s).result⟩
    | ⟨raised, .error e⟩ => ⟨raised, .error e⟩

/-- Ends with a problem at a place. -/
def fail {α : Type} (problem : Problem) (span : Option Span) : Eval α :=
  fun _ => ⟨[], .error (.error { problem, span })⟩

/-- Passes a breakdown on. -/
def orBreak {α : Type} : Except Breakdown α → Eval α
  | .ok a => fun _ => ⟨[], .ok a⟩
  | .error b => fun _ => ⟨[], .error (.broken b)⟩

/-- Raises a warning at a place. -/
def warn (remark : Remark) (span : Option Span) : Eval Unit :=
  fun _ => ⟨[⟨remark, span⟩], .ok ()⟩

/-- The value bound to a name. -/
def lookup (name : String) : Eval (Option Value) := fun s => ⟨[], .ok (s.lookup name)⟩

/-- The tolerance. -/
def epsilon : Eval Float := fun s => ⟨[], .ok s.epsilon⟩

/-- Reads the scope. -/
def scope : Eval Scope := fun s => ⟨[], .ok s⟩

theorem pure_apply {α : Type} (a : α) (s : Scope) : (pure a : Eval α) s = ⟨[], .ok a⟩ := rfl

theorem bind_apply {α β : Type} (m : Eval α) (f : α → Eval β) (s : Scope) :
    (m >>= f) s = match m s with
      | ⟨raised, .ok a⟩ => ⟨raised ++ (f a s).raised, (f a s).result⟩
      | ⟨raised, .error e⟩ => ⟨raised, .error e⟩ := rfl

theorem id_map {α : Type} (m : Eval α) : id <$> m = m := by
  funext s
  simp only [Functor.map]
  rcases m s with ⟨w, (e | a)⟩
  · rfl
  · exact congrArg (fun w => (⟨w, .ok a⟩ : Evaluated α)) (List.append_nil w)

theorem pure_bind {α β : Type} (a : α) (f : α → Eval β) : (pure a >>= f) = f a := by
  funext s
  simp [bind_apply, pure_apply]

theorem bind_assoc {α β γ : Type} (m : Eval α) (f : α → Eval β) (g : β → Eval γ) :
    (m >>= f >>= g) = (m >>= fun a => f a >>= g) := by
  funext s
  simp only [bind_apply]
  rcases m s with ⟨w, (e | a)⟩
  · rfl
  · simp only
    rcases f a s with ⟨w', (e | b)⟩ <;> simp

instance : LawfulMonad Eval := LawfulMonad.mk' Eval id_map pure_bind bind_assoc

end Eval

end DialogScript
