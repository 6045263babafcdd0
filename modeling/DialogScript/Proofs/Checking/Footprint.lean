import DialogScript.Check.Action
import DialogScript.Proofs.Checking.Passes
import DialogScript.Proofs.Loading.Intact
import DialogScript.Proofs.Typing.Mentions

/-!
The footprint of the checks that declare a variable or bind a dialog parameter. Such a check reads
the binding of its own name and of the names in its expressions, and writes under its own name and
to shared lists only. On two tables that bind these names alike it comes to the same result and
makes the same writes. Which other parameters a default is meant for decides about a remark alone.
-/

namespace DialogScript

namespace SymbolTable

variable {t u : SymbolTable}

/-- Tables that bind some names alike. -/
def AlikeOn (names : List String) (t u : SymbolTable) : Prop :=
  ∀ name ∈ names, t.binding? name = u.binding? name

/-- What a write makes of a name depends on its binding alone. -/
theorem binding?_apply_congr {name : String} (h : t.binding? name = u.binding? name) (w : Write) :
    (t.apply w).binding? name = (u.apply w).binding? name := by
  cases hw : w.binds with
  | false =>
    unfold binding? at h ⊢
    rwa [(t.bindings_apply hw).1, (u.bindings_apply hw).1]
  | true =>
    cases w with
    | declare other value =>
      rw [binding?_declare, binding?_declare]
      by_cases ho : name = other
      · subst ho
        rw [h]
      · rw [if_neg ho, if_neg ho, h]
    | overwrite other value =>
      rw [binding?_overwrite, binding?_overwrite]
      by_cases ho : name = other
      · subst ho
        rw [h]
      · rw [if_neg ho, if_neg ho, h]
    | _ => cases hw

theorem AlikeOn.refl (names : List String) (t : SymbolTable) : t.AlikeOn names t := fun _ _ => rfl

theorem AlikeOn.applyAll {names : List String} (h : t.AlikeOn names u) (ws : List Write) :
    (t.applyAll ws).AlikeOn names (u.applyAll ws) := by
  induction ws generalizing t u with
  | nil => exact h
  | cons w rest ih => exact ih fun name hname => binding?_apply_congr (h name hname) w

theorem AlikeOn.lookup {names : List String} (h : t.AlikeOn names u) {name : String}
    (hname : name ∈ names) : t.lookup name = u.lookup name := by
  unfold SymbolTable.lookup
  rw [h name hname]

/-- A write that is about no name but one. -/
def Write.About (own : String) : Write → Prop
  | .declare name _ | .overwrite name _ | .setOptions _ name _ => name = own
  | _ => True

end SymbolTable

namespace Check

/-- A check that reads the bindings of some names only and makes writes of some sort: on tables that
bind these names alike it comes to the same result and makes the same writes. -/
def Confined {α : Type} (names : List String) (P : SymbolTable.Write → Prop) (m : Check α) : Prop :=
  ∀ p s, ∃ ws, (∀ w ∈ ws, P w) ∧ ∀ u : Session, s.table.AlikeOn names u.table →
    (m p u).1 = (m p s).1 ∧ (m p u).2.table = u.table.applyAll ws

namespace Confined

variable {α β : Type} {names : List String} {P : SymbolTable.Write → Prop}

/-- A check that makes no write. -/
theorem keeping {m : Check α} (ht : ∀ p u, (m p u).2.table = u.table)
    (h : ∀ p (s u : Session), s.table.AlikeOn names u.table → (m p u).1 = (m p s).1) :
    Confined names P m := fun p s =>
  ⟨[], fun _ hw => absurd hw List.not_mem_nil, fun u hu => ⟨h p s u hu, ht p u⟩⟩

/-- A check that makes one write. -/
theorem writing {m : Check α} {w : SymbolTable.Write} (hw : P w)
    (ht : ∀ p u, (m p u).2.table = u.table.apply w)
    (h : ∀ p (s u : Session), s.table.AlikeOn names u.table → (m p u).1 = (m p s).1) :
    Confined names P m := by
  refine fun p s => ⟨[w], fun v hv => ?_, fun u hu => ⟨h p s u hu, ht p u⟩⟩
  rw [List.mem_singleton.1 hv]
  exact hw

theorem pure (a : α) : Confined names P (Pure.pure a : Check α) :=
  keeping (fun _ _ => rfl) fun _ _ _ _ => rfl

theorem fail (problem : Problem) : Confined names P (Check.fail problem : Check α) :=
  keeping (fun _ _ => rfl) fun _ _ _ _ => rfl

theorem kind : Confined names P Check.kind := keeping (fun _ _ => rfl) fun _ _ _ _ => rfl

theorem lookup {name : String} (hn : name ∈ names) : Confined names P (Check.lookup name) :=
  keeping (fun _ _ => rfl) fun _ _ _ h => by rw [Check.lookup, Check.lookup, h.lookup hn]

theorem isBound {name : String} (hn : name ∈ names) : Confined names P (Check.isBound name) :=
  keeping (fun _ _ => rfl) fun _ _ _ h => by
    rw [Check.isBound, Check.isBound, SymbolTable.contains, SymbolTable.contains, h name hn]

theorem remark (r : Remark) : Confined names P (Check.remark r) :=
  keeping (fun _ _ => rfl) fun _ _ _ _ => rfl

theorem remarkIf (reason : Bool) (r : Remark) : Confined names P (Check.remarkIf reason r) := by
  cases reason with
  | true => exact remark r
  | false => exact pure ()

/-- Whether any other name is bound decides about a remark alone. -/
theorem isBound_remarkIf (target : String) (r : Remark) :
    Confined names P (Check.isBound target >>= fun bound => Check.remarkIf (!bound) r) := by
  have hrun (p : Place) (s : Session) :
      ((Check.isBound target >>= fun bound => Check.remarkIf (!bound) r) p s).1 = .ok () ∧
        ((Check.isBound target >>= fun bound => Check.remarkIf (!bound) r) p s).2.table =
          s.table := by
    show (Check.remarkIf (!s.table.contains target) r p s).1 = _ ∧
      (Check.remarkIf (!s.table.contains target) r p s).2.table = _
    cases s.table.contains target <;> exact ⟨rfl, rfl⟩
  exact keeping (fun p u => (hrun p u).2) fun p s u _ => (hrun p u).1.trans (hrun p s).1.symm

theorem write {w : SymbolTable.Write} (hw : P w) : Confined names P (Check.write w) :=
  writing hw (fun _ _ => rfl) fun _ _ _ _ => rfl

theorem declare {name : String} {value : Value} (hn : name ∈ names)
    (hw : P (.declare name value)) : Confined names P (Check.declare name value) := by
  refine writing hw (fun _ _ => rfl) fun p s u h => ?_
  show Except.ok (u.table.declare name value).1.count = .ok (s.table.declare name value).1.count
  unfold SymbolTable.declare
  rw [h name hn]
  cases u.table.binding? name <;> rfl

/-- An evaluation that depends on the names alone. -/
theorem eval {m : Eval α} (hm : ∀ {s u : Scope}, s.epsilon = u.epsilon →
      (∀ name ∈ names, s.lookup name = u.lookup name) → Eval.Same s u m) :
    Confined names P (Check.eval m) := by
  refine keeping (fun _ _ => rfl) fun p s u h => ?_
  have hsame := hm (s := ⟨s.table.lookup, p.host.epsilon⟩) (u := ⟨u.table.lookup, p.host.epsilon⟩)
    rfl fun name hname => h.lookup hname
  exact congrArg Evaluated.result hsame.symm

theorem bind {m : Check α} {f : α → Check β} (hm : Confined names P m)
    (hf : ∀ a, Confined names P (f a)) : Confined names P (m >>= f) := by
  intro p s
  obtain ⟨ws, hp, hws⟩ := hm p s
  have hs := (hws s (.refl names s.table)).2
  cases hr : (m p s).1 with
  | error e =>
    -- The rest is not run, on the one table or on the other.
    refine ⟨ws, hp, fun u hu => ?_⟩
    obtain ⟨hresult, htable⟩ := hws u hu
    rw [bind_of_error hr, bind_of_error (hresult.trans hr)]
    exact ⟨rfl, htable⟩
  | ok a =>
    obtain ⟨vs, hq, hvs⟩ := hf a p (m p s).2
    refine ⟨ws ++ vs, fun w hw => (List.mem_append.1 hw).elim (hp w) (hq w), fun u hu => ?_⟩
    obtain ⟨hresult, htable⟩ := hws u hu
    rw [bind_of_ok hr, bind_of_ok (hresult.trans hr)]
    have halike : (m p s).2.table.AlikeOn names (m p u).2.table := by
      rw [hs, htable]
      exact hu.applyAll ws
    obtain ⟨hresult', htable'⟩ := hvs (m p u).2 halike
    exact ⟨hresult', by rw [htable', htable, SymbolTable.applyAll_append]⟩

theorem map {m : Check α} (hm : Confined names P m) (f : α → β) : Confined names P (f <$> m) :=
  hm.bind fun a => pure (f a)

theorem ite {c : Prop} [Decidable c] {m n : Check α} (hm : Confined names P m)
    (hn : Confined names P n) : Confined names P (if c then m else n) := by
  split
  · exact hm
  · exact hn

end Confined

/-! ## Shared rules -/

section

variable {names : List String} {P : SymbolTable.Write → Prop}

theorem integer_confined {e : Expr} (h : e.names ⊆ names) : Confined names P (integer e) :=
  .bind (.eval fun he hs => (e.reading_same he fun name hn => hs name (h hn)).integer)
    fun _ => .pure _

theorem double_confined {e : Expr} (h : e.names ⊆ names) : Confined names P (double e) :=
  .bind (.eval fun he hs => (e.reading_same he fun name hn => hs name (h hn)).double)
    fun _ => .pure _

theorem text_confined {e : Expr} (h : e.names ⊆ names) : Confined names P (text e) :=
  .bind (.eval fun he hs => (e.reading_same he fun name hn => hs name (h hn)).text)
    fun _ => .pure _

theorem requireWritable_confined (ns : List Int) : Confined names P (requireWritable ns) :=
  .eval fun _ _ => .orBreak _

theorem requireIdentifier_confined (name field : String) :
    Confined names P (requireIdentifier name field) :=
  .bind .kind fun _ => .ite (.fail _) (.ite (.pure ()) (.fail _))

theorem requireSubtype_confined (name : String) (subtype : ParamSubtype)
    (allowed : List ParamSubtype) : Confined names P (requireSubtype name subtype allowed) :=
  .bind .kind fun _ => .ite (.pure ()) (.fail _)

theorem defaultValue_confined (subtype : ParamSubtype) {e : Expr} (h : e.names ⊆ names) :
    Confined names P (defaultValue subtype e) := by
  refine .ite (.pure _) ?_
  cases subtype with
  | int => exact (integer_confined h).map _
  | bool => exact (integer_confined h).map _
  | double => exact (double_confined h).map _
  | string => exact (text_confined h).map _

theorem nonEmptyText_confined {e : Expr} (h : e.names ⊆ names) (what : String) :
    Confined names P (nonEmptyText e what) :=
  .bind (text_confined h) fun _ => .ite (.bind .kind fun _ => .fail _) (.pure _)

theorem optionalEntry_confined {e : Expr} {key : String} {read : Expr → Check Value}
    (h : Confined names P (read e)) : Confined names P (optionalEntry e key read) :=
  .ite (.pure []) (.bind h fun _ => .pure _)

theorem textEntry_confined {e : Expr} (h : e.names ⊆ names) (key what : String) :
    Confined names P (optionalEntry e key fun e => Value.string <$> nonEmptyText e what) :=
  optionalEntry_confined ((nonEmptyText_confined h what).map _)

theorem displayOrder_confined {e : Expr} (h : e.names ⊆ names) :
    Confined names P (displayOrder e) := by
  refine optionalEntry_confined (.bind (integer_confined h) fun n => ?_)
  exact .ite (.bind (requireWritable_confined [n]) fun _ => .fail _) (.pure _)

theorem displayOptions_confined (name : String) {d : Display}
    (h : ∀ e ∈ d.slots, e.names ⊆ names) : Confined names P (displayOptions name d) := by
  simp only [Display.slots, List.forall_mem_cons] at h
  obtain ⟨htooltip, himage, hx, hy, -⟩ := h
  refine .bind ?_ fun shown => .bind ?_ fun placed => .pure _
  · refine .bind .kind fun kind => .ite (.fail _) ?_
    exact .bind (textEntry_confined htooltip _ _) fun _ =>
      .bind (textEntry_confined himage _ _) fun _ => .pure _
  · refine .ite (.pure []) (.bind .kind fun kind => .ite (.fail _) ?_)
    refine .bind (integer_confined hx) fun x => .bind (integer_confined hy) fun y => ?_
    exact .ite (.bind (requireWritable_confined [x, y]) fun _ => .fail _) (.pure _)

end

/-! ## Declarations and parameters -/

section

open SymbolTable (Write)

variable {names : List String} {own : String}

theorem bindParameter_confined (hown : own ∈ names) (type : ValueType) (initial : Value) :
    Confined names (Write.About own) (bindParameter own type initial) := by
  refine .bind (.lookup hown) fun bound => ?_
  split
  · exact .bind (.declare hown rfl) fun _ => .pure ()
  · refine .ite (.fail _) (.bind .kind fun _ => ?_)
    exact .bind (.declare hown rfl) fun _ => .remark _

theorem storeOptions_confined (options : Options) :
    Confined names (Write.About own) (storeOptions own options) :=
  .bind .kind fun _ => .bind (.write rfl) fun _ => .remark _

theorem registerRequired_confined (list : TrackedList) (name : String) :
    Confined names (Write.About own) (registerRequired list name) :=
  .bind (.write trivial) fun _ => .remark _

theorem declaration_confined {d : Declaration} (hown : d.name ∈ names)
    (h : d.default.names ⊆ names) : Confined names (Write.About d.name) (declaration d) := by
  have hfirst (type : ValueType) : Confined names (Write.About d.name) (firstValue d type) := by
    unfold firstValue
    split
    · exact defaultValue_confined _ h
    · exact .ite (.pure _) (.fail _)
  refine .bind (requireIdentifier_confined _ _) fun _ => ?_
  split
  · exact .fail _
  · refine .bind (.lookup hown) fun bound => ?_
    split
    · exact .ite (.fail _) (.bind (.declare hown rfl) fun _ => .remark _)
    · exact .bind (hfirst _) fun _ => .bind (.declare hown rfl) fun _ => .pure ()

theorem shownParam_confined {p : ShownParam} (hown : p.name ∈ names)
    (h : ∀ e ∈ p.display.slots, e.names ⊆ names) :
    Confined names (Write.About p.name) (shownParam p) := by
  refine .bind (requireIdentifier_confined _ _) fun _ => ?_
  refine .bind (requireSubtype_confined _ _ _) fun _ => ?_
  refine .bind (bindParameter_confined hown _ _) fun _ => .ite ?_ (.pure ())
  exact .bind (displayOptions_confined _ h) fun _ => storeOptions_confined _

theorem checkboxParam_confined {p : CheckboxParam} (hown : p.name ∈ names)
    (h : ∀ e ∈ (Action.checkbox p).slots, e.names ⊆ names) :
    Confined names (Write.About p.name) (checkboxParam p) := by
  simp only [Action.slots, List.forall_mem_cons] at h
  obtain ⟨horder, htag, hdisplay⟩ := h
  refine .bind (requireIdentifier_confined _ _) fun _ => ?_
  refine .bind (requireSubtype_confined _ _ _) fun _ => ?_
  refine .bind (bindParameter_confined hown _ _) fun _ => .ite ?_ (.pure ())
  refine .bind (displayOrder_confined horder) fun _ => ?_
  refine .bind (displayOptions_confined _ hdisplay) fun _ => ?_
  refine .bind (textEntry_confined htag _ _) fun _ => .bind (storeOptions_confined _) fun _ => ?_
  exact .ite (registerRequired_confined _ _) (.pure ())

theorem defaultTargets_confined (targets : List String) :
    Confined names (Write.About own) (defaultTargets own targets) := by
  induction targets with
  | nil => exact .pure ()
  | cons target rest ih =>
    refine .bind .kind fun kind => .ite (.fail _) ?_
    rw [← bind_assoc]
    exact .bind (.isBound_remarkIf target _) fun _ => ih

theorem inputRange_confined {p : InputParam} (hleast : p.minValue.names ⊆ names)
    (hgreatest : p.maxValue.names ⊆ names) :
    Confined names (Write.About own) (inputRange p) := by
  have hbound {e : Expr} (h : e.names ⊆ names) :
      Confined names (Write.About own) (inputBound e) :=
    .ite (.pure none) ((double_confined h).map _)
  refine .ite (.pure []) (.bind (requireSubtype_confined _ _ _) fun _ => ?_)
  refine .bind (hbound hleast) fun least => .bind (hbound hgreatest) fun greatest => ?_
  cases least <;> cases greatest
  case some.some => exact .ite (.fail _) (.pure _)
  all_goals exact .pure _

theorem inputParam_confined {p : InputParam} (hown : p.name ∈ names)
    (h : ∀ e ∈ p.slots, e.names ⊆ names) :
    Confined names (Write.About p.name) (inputParam p) := by
  obtain ⟨hfields, hdisplay⟩ := List.forall_mem_append.1 h
  simp only [List.forall_mem_cons] at hfields
  obtain ⟨hdefault, hwidth, hplaces, hmodel, horder, hleast, hgreatest, -⟩ := hfields
  refine .bind (requireIdentifier_confined _ _) fun _ => ?_
  refine .bind (requireSubtype_confined _ _ _) fun _ => .bind ?_ fun _ => .ite ?_ (.pure ())
  · have hinitial : Confined names (Write.About p.name) (inputValue p) :=
      .bind (.isBound hown) fun _ => .ite (.pure _) (defaultValue_confined _ hdefault)
    exact .bind hinitial fun _ => bindParameter_confined hown _ _
  · refine .bind (.ite (.pure []) (.bind (defaultTargets_confined _) fun _ => .pure _)) fun _ => ?_
    refine .bind (optionalEntry_confined (.bind (double_confined hwidth) fun _ =>
      .ite (.fail _) (.pure _))) fun _ => ?_
    refine .bind (optionalEntry_confined (.bind (requireSubtype_confined _ _ _) fun _ =>
      .bind (double_confined hplaces) fun _ => .ite (.fail _) (.pure _))) fun _ => ?_
    refine .bind (textEntry_confined hmodel _ _) fun _ => ?_
    refine .bind (displayOrder_confined horder) fun _ => ?_
    refine .bind (inputRange_confined hleast hgreatest) fun _ => ?_
    exact .bind (displayOptions_confined _ hdisplay) fun _ => storeOptions_confined _

theorem optionLabels_confined (name : String) {options : List Expr}
    (h : ∀ e ∈ options, e.names ⊆ names) (place : Nat) :
    Confined names (Write.About own) (optionLabels name place options) := by
  induction options generalizing place with
  | nil => exact .pure []
  | cons e rest ih =>
    obtain ⟨hfirst, hrest⟩ := List.forall_mem_cons.1 h
    exact .bind (nonEmptyText_confined hfirst _) fun _ => .bind (ih hrest _) fun _ => .pure _

theorem radioParam_confined {p : RadioParam} (hown : p.name ∈ names)
    (h : ∀ e ∈ (Action.radio p).slots, e.names ⊆ names) :
    Confined names (Write.About p.name) (radioParam p) := by
  obtain ⟨hoptions, hfields⟩ := List.forall_mem_append.1 h
  obtain ⟨horder, hdisplay⟩ := List.forall_mem_cons.1 hfields
  refine .bind (requireIdentifier_confined _ _) fun _ => ?_
  refine .bind (requireSubtype_confined _ _ _) fun _ => .ite (.fail _) ?_
  refine .bind (bindParameter_confined hown _ _) fun _ => .bind (.remarkIf _ _) fun _ => ?_
  refine .ite ?_ (.pure ())
  refine .bind (.ite (.pure []) (.bind (optionLabels_confined _ hoptions _) fun _ => .pure _))
    fun _ => ?_
  refine .bind (displayOrder_confined horder) fun _ => ?_
  refine .bind (displayOptions_confined _ hdisplay) fun _ => ?_
  exact .bind (storeOptions_confined _) fun _ => .ite (registerRequired_confined _ _) (.pure ())

end

end Check

/-! ## Actions that declare -/

/-- The name that a declaration of a variable or a dialog parameter binds. -/
def Action.parameter? : Action → Option String
  | .declare d => some d.name
  | .showParam p => some p.name
  | .checkbox p => some p.name
  | .userInput p => some p.name
  | .radio p => some p.name
  | _ => none

theorem Action.kind?_of_parameter? {a : Action} {own : String} (h : a.parameter? = some own) :
    ∃ kind, a.kind? = some kind := by
  cases a with
  | declare _ | showParam _ | checkbox _ | userInput _ | radio _ => exact ⟨_, rfl⟩
  | _ => cases h

/-- The names in the expressions of an action. -/
def Action.mentioned (a : Action) : List String := a.slots.flatMap Expr.names

/-- The check of an action that declares a name reads that name and those in its expressions. -/
theorem Check.action_confined {a : Action} {own : String} (ha : a.parameter? = some own) :
    Confined (own :: a.mentioned) (SymbolTable.Write.About own) (action a) := by
  have hslots : ∀ e ∈ a.slots, e.names ⊆ own :: a.mentioned := fun e he name hname =>
    List.mem_cons_of_mem own (List.mem_flatMap.2 ⟨e, he, hname⟩)
  have hown : own ∈ own :: a.mentioned := List.mem_cons_self
  generalize own :: a.mentioned = names at hslots hown
  cases a with
  | declare d =>
    cases ha
    exact declaration_confined hown (hslots d.default List.mem_cons_self)
  | showParam p =>
    cases ha
    exact shownParam_confined hown hslots
  | checkbox p =>
    cases ha
    exact checkboxParam_confined hown hslots
  | userInput p =>
    cases ha
    exact inputParam_confined hown hslots
  | radio p =>
    cases ha
    exact radioParam_confined hown hslots
  | _ => cases ha

end DialogScript
