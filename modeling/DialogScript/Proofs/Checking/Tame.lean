import DialogScript.Check.Basic
import DialogScript.Proofs.Table.Reachable
import DialogScript.Proofs.Typing.Warned

/-!
What every check does to a session: it makes some writes and adds some diagnostics, none of them an
error. Each of these is about the command that is being run, unless an evaluation has warned of it.
The result of a check and its writes depend only on what is in the table and on the branch around
it, not on open journals, on earlier diagnostics or on the commands around.
-/

namespace DialogScript

namespace Session

/-- A session after some writes, with some diagnostics added. -/
def after (s : Session) (ws : List SymbolTable.Write) (ds : List Diagnostic) : Session :=
  { s with table := s.table.applyAll ws, diagnostics := s.diagnostics ++ ds }

/-- Sessions with the same in their tables and the same branch around. -/
structure Alike (s u : Session) : Prop where
  contents : u.table.contents = s.table.contents
  conditional : u.around.conditional = s.around.conditional
  branch : u.around.branch = s.around.branch

namespace Alike

variable {s u : Session}

theorem refl (s : Session) : Alike s s := ⟨rfl, rfl, rfl⟩

theorem bindings (h : Alike s u) : u.table.bindings = s.table.bindings := by
  show u.table.contents.bindings = s.table.contents.bindings
  rw [h.contents]

theorem singleton (h : Alike s u) (which : Singleton) :
    u.table.singleton which = s.table.singleton which := by
  show u.table.contents.singleton which = s.table.contents.singleton which
  rw [h.contents]

theorem lookup (h : Alike s u) : u.table.lookup = s.table.lookup := by
  funext name
  unfold SymbolTable.lookup SymbolTable.binding?
  rw [h.bindings]

theorem after (h : Alike s u) (ws : List SymbolTable.Write) (ds es : List Diagnostic) :
    Alike (s.after ws ds) (u.after ws es) := by
  refine ⟨?_, h.conditional, h.branch⟩
  calc (u.table.applyAll ws).contents
      = u.table.contents.applyAll ws := SymbolTable.contents_applyAll _ _
    _ = s.table.contents.applyAll ws := by rw [h.contents]
    _ = (s.table.applyAll ws).contents := (SymbolTable.contents_applyAll _ _).symm

end Alike

theorem after_after (s : Session) (ws vs : List SymbolTable.Write) (ds es : List Diagnostic) :
    (s.after ws ds).after vs es = s.after (ws ++ vs) (ds ++ es) := by
  simp [after, SymbolTable.applyAll_append]

theorem after_nil (s : Session) : s.after [] [] = s := by
  simp [after, SymbolTable.applyAll]

end Session

namespace Check

theorem bind_of_ok {α β : Type} {m : Check α} {p : Place} {s : Session} {a : α}
    (h : (m p s).1 = .ok a) (f : α → Check β) : (m >>= f) p s = f a p (m p s).2 := by
  rw [bind_apply]
  cases hm : m p s with
  | mk r s' =>
    rw [hm] at h
    obtain rfl : r = .ok a := h
    rfl

theorem bind_of_error {α β : Type} {m : Check α} {p : Place} {s : Session} {e : Failure}
    (h : (m p s).1 = .error e) (f : α → Check β) : (m >>= f) p s = (.error e, (m p s).2) := by
  rw [bind_apply]
  cases hm : m p s with
  | mk r s' =>
    rw [hm] at h
    obtain rfl : r = .error e := h
    rfl

/-- Any write. -/
def anyWrite (_ : SymbolTable.Write) : Prop := True

/-- A write of something other than a record. -/
def noRecord (w : SymbolTable.Write) : Prop := w.setsRecord = false

/-- No write. -/
def noWrite (_ : SymbolTable.Write) : Prop := False

/-- A diagnostic that a check finds, with the innermost command that is being run: a remark about
that command, or what an evaluation has warned of, which has no command. -/
inductive Found (running : Option Running) : Diagnostic → Prop where
  | remark (r : Remark) : Found running ((Diagnostic.ofRemark r).attributed
      (running.map fun c => c.kind.name) (running.bind Running.span))
  | raised {r : Raised} (h : r.OfPath) : Found running r.diagnostic

theorem Found.severity {running : Option Running} {d : Diagnostic} (h : Found running d) :
    d.severity ≠ .error := by
  cases h with
  | remark r => exact Diagnostic.severity_ofRemark r
  | @raised r _ => exact Diagnostic.severity_ofRemark r.remark

/-- A check that makes writes of some sort and finds diagnostics. Alike sessions get the same result
and the same writes. -/
def Tame {α : Type} (P : SymbolTable.Write → Prop) (m : Check α) : Prop :=
  ∀ p s, ∃ ws, (∀ w ∈ ws, P w) ∧ ∀ u, Session.Alike s u → (m p u).1 = (m p s).1 ∧
    ∃ ds, (m p u).2 = u.after ws ds ∧ ∀ d ∈ ds, Found u.current d

namespace Tame

variable {α β : Type} {P : SymbolTable.Write → Prop}

theorem mono {Q : SymbolTable.Write → Prop} {m : Check α} (h : Tame P m) (hq : ∀ w, P w → Q w) :
    Tame Q m := fun p s =>
  let ⟨ws, hp, hws⟩ := h p s
  ⟨ws, fun w hw => hq w (hp w hw), hws⟩

/-- A check that only reads. -/
theorem read {f : Place → Session → Except Failure α}
    (h : ∀ p s u, Session.Alike s u → f p u = f p s) : Tame P fun p s => (f p s, s) := by
  intro p s
  refine ⟨[], fun _ hw => absurd hw List.not_mem_nil, fun u hu => ⟨h p s u hu, [], ?_, ?_⟩⟩
  · exact u.after_nil.symm
  · exact fun _ hd => absurd hd List.not_mem_nil

theorem pure (a : α) : Tame P (Pure.pure a : Check α) := read fun _ _ _ _ => rfl

theorem failAt (problem : Problem) (span : Option Span) :
    Tame P (Check.failAt problem span : Check α) := read fun _ _ _ _ => rfl

theorem fail (problem : Problem) : Tame P (Check.fail problem : Check α) := failAt problem none

theorem kind : Tame P Check.kind := read fun _ _ _ _ => rfl

theorem host : Tame P Check.host := read fun _ _ _ _ => rfl

theorem lookup (name : String) : Tame P (Check.lookup name) :=
  read fun _ _ _ h => by rw [h.lookup]

theorem isBound (name : String) : Tame P (Check.isBound name) :=
  read fun _ s u h => by
    have hb : u.table.contains name = s.table.contains name := by
      unfold SymbolTable.contains SymbolTable.binding?
      rw [h.bindings]
    rw [hb]

theorem singleton (which : Singleton) : Tame P (Check.singleton which) :=
  read fun _ _ _ h => by rw [h.singleton]

theorem branchAround : Tame P Check.branchAround :=
  read fun _ _ _ h => by rw [h.conditional, h.branch]

/-- A check that makes one write. -/
theorem writing {m : Check α} {w : SymbolTable.Write} (hw : P w)
    (h : ∀ p s u, Session.Alike s u → (m p u).1 = (m p s).1)
    (hm : ∀ p u, (m p u).2 = u.after [w] []) : Tame P m := by
  intro p s
  refine ⟨[w], fun v hv => ?_, fun u hu => ⟨h p s u hu, [], hm p u, ?_⟩⟩
  · rw [List.mem_singleton.1 hv]
    exact hw
  · exact fun _ hd => absurd hd List.not_mem_nil

theorem write {w : SymbolTable.Write} (hw : P w) : Tame P (Check.write w) := by
  refine writing hw (fun _ _ _ _ => rfl) fun p u => ?_
  simp [Check.write, Session.withTable, Session.after, SymbolTable.applyAll]

theorem declare {name : String} {value : Value} (hw : P (.declare name value)) :
    Tame P (Check.declare name value) := by
  refine writing hw (fun p s u hu => ?_) fun p u => ?_
  · show Except.ok (u.table.declare name value).1.count = .ok (s.table.declare name value).1.count
    unfold SymbolTable.declare SymbolTable.binding?
    rw [hu.bindings]
    cases s.table.bindings.lookup name <;> rfl
  · simp [Check.declare, Session.after, SymbolTable.applyAll, SymbolTable.apply]

/-- A check that adds diagnostics. -/
theorem adding {f : Place → Session → Except Failure α} {g : Place → Session → List Diagnostic}
    (h : ∀ p s u, Session.Alike s u → f p u = f p s)
    (hg : ∀ p s, ∀ d ∈ g p s, Found s.current d) :
    Tame P fun p s => (f p s, { s with diagnostics := s.diagnostics ++ g p s }) := by
  intro p s
  refine ⟨[], fun _ hw => absurd hw List.not_mem_nil, fun u hu => ⟨h p s u hu, g p u, rfl, ?_⟩⟩
  exact hg p u

theorem remark (r : Remark) : Tame P (Check.remark r) := by
  refine adding (f := fun _ _ => .ok ()) (g := fun _ s => [(Diagnostic.ofRemark r).attributed
    (s.current.map fun c => c.kind.name) (s.current.bind Running.span)]) (fun _ _ _ _ => rfl) ?_
  intro p s d hd
  rw [List.mem_singleton.1 hd]
  exact .remark r

theorem eval {m : Eval α} (h : m.WarnsOfPaths) : Tame P (Check.eval m) := by
  refine adding (fun p s u hu => ?_) fun p s d hd => ?_
  · rw [hu.lookup]
  · obtain ⟨r, hr, rfl⟩ := List.mem_map.1 hd
    exact .raised (h _ r hr)

theorem bind {m : Check α} {f : α → Check β} (hm : Tame P m) (hf : ∀ a, Tame P (f a)) :
    Tame P (m >>= f) := by
  intro p s
  obtain ⟨ws, hp, hws⟩ := hm p s
  obtain ⟨-, ds, hs, hds⟩ := hws s (.refl s)
  cases hr : (m p s).1 with
  | error e =>
    -- The rest is not run, here or in any session alike.
    refine ⟨ws, hp, fun u hu => ?_⟩
    obtain ⟨hu₁, es, hu₂, hes⟩ := hws u hu
    rw [bind_of_error hr, bind_of_error (hu₁.trans hr)]
    exact ⟨rfl, es, hu₂, hes⟩
  | ok a =>
    obtain ⟨vs, hq, hvs⟩ := hf a p (m p s).2
    refine ⟨ws ++ vs, fun w hw => ?_, fun u hu => ?_⟩
    · exact (List.mem_append.1 hw).elim (hp w) (hq w)
    obtain ⟨hu₁, es, hu₂, hes⟩ := hws u hu
    rw [bind_of_ok hr, bind_of_ok (hu₁.trans hr)]
    have halike : Session.Alike (m p s).2 (m p u).2 := by
      rw [hs, hu₂]
      exact hu.after ws ds es
    obtain ⟨hv₁, fs, hv₂, hfs⟩ := hvs (m p u).2 halike
    -- The first check leaves the run where it stands.
    have hcurrent : (m p u).2.current = u.current := by
      rw [hu₂]
      rfl
    rw [hcurrent] at hfs
    refine ⟨hv₁, es ++ fs, ?_, fun d hd => ?_⟩
    · rw [hv₂, hu₂, Session.after_after]
    · exact (List.mem_append.1 hd).elim (hes d) (hfs d)

theorem map {m : Check α} (hm : Tame P m) (f : α → β) : Tame P (f <$> m) :=
  hm.bind fun a => pure (f a)

theorem ite {c : Prop} [Decidable c] {m n : Check α} (hm : Tame P m) (hn : Tame P n) :
    Tame P (if c then m else n) := by
  split
  · exact hm
  · exact hn

end Tame

end Check

end DialogScript
