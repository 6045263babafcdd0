import DialogScript.Proofs.Running.Trail

/-!
The names that a run declares. A visited command that passes counts a declaration of its name, or
replaces the value; nothing else touches a name. So the count of a name is told by the commands that
declare it, its first value is that of the first of them, and only a selection table gives a bound
name another value.
-/

namespace DialogScript

/-- How often a name has been declared. -/
def SymbolTable.declarations (t : SymbolTable) (name : String) : Nat :=
  ((t.binding? name).map Binding.count).getD 0

namespace Visit

/-- What a visited command declares, if it passes. -/
def declared? (setting : Setting) (v : Visit) : Option Declares :=
  (v.passed? setting).bind Action.declares?

/-- Whether a visited command passes and declares a name. A selection table declares its name where
that is not bound. -/
def declares (setting : Setting) (name : String) (v : Visit) : Bool :=
  match v.declared? setting with
  | some d => d.name = name && (d.rebinding ≠ .replaces || !v.session.table.contains name)
  | none => false

end Visit

variable {setting : Setting} {s : Session} {t u : SymbolTable} {v : Visit} {name : String}

/-! ## How often a name is declared -/

theorem Visit.declarations_after (setting : Setting) (hv : v.session.table.Reachable)
    (name : String) :
    (v.after setting).declarations name =
      v.session.table.declarations name + if v.declares setting name then 1 else 0 := by
  unfold SymbolTable.declarations
  rcases Visit.after_name setting hv name with ⟨hnone, hsame⟩ | ⟨a, kind, ha, -, h⟩
  · have hdeclares : v.declares setting name = false := by
      simp [Visit.declares, Visit.declared?, hnone]
    rw [hsame, hdeclares]
    rfl
  · cases h with
    | kept hd hb hl =>
      have hdeclares : v.declares setting name = false := by
        cases hfound : a.declares? with
        | none => simp [Visit.declares, Visit.declared?, ha, hfound]
        | some d => simp [Visit.declares, Visit.declared?, ha, hfound, hd d hfound]
      rw [hb, hdeclares]
      rfl
    | first hd hname hid hfree hvalue ht hb hl =>
      have hdeclares : v.declares setting name = true := by
        simp [Visit.declares, Visit.declared?, ha, hd, hname, SymbolTable.contains, hfree]
      rw [hb, hfree, hdeclares]
      rfl
    | again hd hname hr hbound ht hb hl =>
      have hdeclares : v.declares setting name = true := by
        simp [Visit.declares, Visit.declared?, ha, hd, hname, hr]
      rw [hb, hbound, hdeclares]
      rfl
    | replaced hd hname hr hbound hvalue ht hb hl =>
      have hdeclares : v.declares setting name = false := by
        simp [Visit.declares, Visit.declared?, ha, hd, hname, hr, SymbolTable.contains, hbound]
      rw [hb, hbound, hdeclares]
      rfl

/-- Along a trail, a name is declared by the visited commands that declare it. -/
theorem Trail.declarations {vs : List Visit} (h : Trail setting t vs u) (name : String) :
    u.declarations name = t.declarations name + vs.countP (Visit.declares setting name) := by
  induction h with
  | done h =>
    unfold SymbolTable.declarations
    rw [binding?_of_unrecorded h]
    rfl
  | @step t u v vs h hv _ ih =>
    have hfound : v.session.table.declarations name = t.declarations name := by
      unfold SymbolTable.declarations
      rw [binding?_of_unrecorded h]
    rw [ih, Visit.declarations_after setting hv, hfound, List.countP_cons]
    omega

/-- The count of a name is its count at the start and one for each command that passes and declares
it, nested ones included and whatever else fails. A command that does not, leaves the count. -/
theorem runSeries_declarations (cs : List Command) (hs : s.table.Reachable) (name : String) :
    (runSeries setting cs s).table.declarations name = s.table.declarations name +
      (seriesVisits setting cs s).countP (Visit.declares setting name) ∧
    ∀ v ∈ seriesVisits setting cs s, ∀ status a, v.command = .action status a →
      v.declares setting name = false →
      (v.ran setting).session.table.declarations name = v.session.table.declarations name := by
  have htrail := trail_series setting cs hs
  refine ⟨htrail.declarations name, fun v hv status a hc hnone => ?_⟩
  have hafter := Visit.declarations_after setting (htrail.reachable v hv) name
  rw [hnone, Visit.after, hc] at hafter
  exact hafter

/-- A selection table without rows. -/
def emptyTable (name : String) : SelectionTable where
  identifier := name
  selStrings := [.literal none (.string "S")]
  dataTypes := [.literal none (.string "INTEGER")]

/-- A conditional that fails, in which a variable is declared, a checkbox for it fails after it has
been counted, and a table replaces it. -/
def redeclaring : Command :=
  .conditional {} [.mk none .absent
    [.action {} (.declare { name := "Q", kind := .parameter, subtype := some .int }),
      .action {} (.checkbox { name := "Q", subtype := .int, tag := .literal none (.string "") }),
      .action {} (.table (emptyTable "Q"))]] [] 7

theorem runSeries_declarations_redeclaring :
    boundOnce.table.Reachable ∧
      (runSeries {} [redeclaring] boundOnce).table.declarations "Q" = 2 := by
  have hs : boundOnce.table.Reachable := .apply .empty (.declare "Q" (.integer 1))
  refine ⟨hs, ?_⟩
  rw [(runSeries_declarations [redeclaring] hs "Q").1]
  rfl

/-! ## First declarations -/

namespace Visit

/-- A visited command passes and declares a name, bound or not. -/
def Names (setting : Setting) (name : String) (v : Visit) : Prop :=
  ∃ d, v.declared? setting = some d ∧ d.name = name

/-- A visited command is a selection table that passes, under a name. -/
def Tables (setting : Setting) (name : String) (v : Visit) : Prop :=
  ∃ q, v.passed? setting = some (.table q) ∧ q.identifier = name

theorem Tables.names (h : v.Tables setting name) : v.Names setting name := by
  obtain ⟨q, hq, hname⟩ := h
  exact ⟨⟨q.identifier, .map, Check.tableValue q, .replaces⟩, by rw [declared?, hq]; rfl, hname⟩

end Visit

/-- The first of some visited commands to declare a name has given it a value, of the type that the
command declares. The others came later. -/
structure FirstGiven (setting : Setting) (name : String) (vs later : List Visit) (value : Value) :
    Prop where
  identifier : isIdentifier name = true
  first : ∃ before v d kind, vs = before ++ v :: later ∧
    (∀ w ∈ before, ¬w.Names setting name) ∧ v.declared? setting = some d ∧ d.name = name ∧
    v.command.kind? = some kind ∧ (d.value ⟨kind, setting.host⟩ v.session).1 = .ok value ∧
    value.type = d.type

/-- What some visited commands have made of a name. Either none of them has declared it, and it has
neither a value nor a first one. Or it has both: the first one is that given by the first of them to
declare it, and the value is the same unless a selection table came later, and then it is a map. -/
inductive FirstWins (setting : Setting) (vs : List Visit) (t : SymbolTable) (name : String) : Prop
    where
  | free (hnone : ∀ v ∈ vs, ¬v.Names setting name) (hlookup : t.lookup name = none)
      (hbaseline : t.baseline name = none)
  | bound {later : List Visit} {value found : Value}
      (hgiven : FirstGiven setting name vs later value) (hbaseline : t.baseline name = some value)
      (hlookup : t.lookup name = some found)
      (hkept : (∀ w ∈ later, ¬w.Tables setting name) → found = value)
      (hreplaced : (∃ w ∈ later, w.Tables setting name) → found.type = .map)

/-- Only a selection table replaces a value. -/
theorem Action.table_of_replaces {a : Action} {d : Declares} (hd : a.declares? = some d)
    (hr : d.rebinding = .replaces) :
    ∃ q, a = .table q ∧ d = ⟨q.identifier, .map, Check.tableValue q, .replaces⟩ := by
  cases a with
  | table q =>
    cases hd
    exact ⟨q, rfl, rfl⟩
  | declare q =>
    obtain ⟨type, -, rfl⟩ := Option.map_eq_some_iff.1 hd
    cases hr
  | select q =>
    change q.target.declares? = some d at hd
    cases hq : q.target <;> rw [hq] at hd <;> cases hd <;> cases hr
  | showParam _ | checkbox _ | userInput _ | radio _ =>
    cases hd
    cases hr
  | _ => cases hd

theorem FirstGiven.snoc {vs later : List Visit} {value : Value}
    (h : FirstGiven setting name vs later value) (v : Visit) :
    FirstGiven setting name (vs ++ [v]) (later ++ [v]) value := by
  obtain ⟨hid, before, w, d, kind, rfl, hrest⟩ := h
  exact ⟨hid, before, w, d, kind, by simp, hrest⟩

namespace FirstWins

variable {vs : List Visit}

theorem of_unrecorded (h : FirstWins setting vs t name) (hu : u.unrecorded = t.unrecorded) :
    FirstWins setting vs u name := by
  have hlookup := lookup_of_unrecorded hu name
  have hbaseline := baseline_of_unrecorded hu name
  cases h with
  | free hnone hl hb => exact .free hnone (hlookup.trans hl) (hbaseline.trans hb)
  | bound hgiven hb hl hkept hreplaced =>
    exact .bound hgiven (hbaseline.trans hb) (hlookup.trans hl) hkept hreplaced

/-- A visited command that is no table under the name and leaves the value. -/
theorem keep {later : List Visit} {value found : Value}
    (hgiven : FirstGiven setting name vs later value)
    (hkept : (∀ w ∈ later, ¬w.Tables setting name) → found = value)
    (hreplaced : (∃ w ∈ later, w.Tables setting name) → found.type = .map)
    (hv : ¬v.Tables setting name) (hlookup : u.lookup name = some found)
    (hbaseline : u.baseline name = some value) : FirstWins setting (vs ++ [v]) u name := by
  refine .bound (hgiven.snoc v) hbaseline hlookup (fun h => hkept fun w hw => ?_) ?_
  · exact h w (List.mem_append_left _ hw)
  · rintro ⟨w, hw, htables⟩
    rcases List.mem_append.1 hw with hw | hw
    · exact hreplaced ⟨w, hw, htables⟩
    · rw [List.mem_singleton.1 hw] at htables
      exact absurd htables hv

/-- A visited command that does not declare the name. -/
theorem idle (h : FirstWins setting vs t name) (hv : ¬v.Names setting name)
    (hlookup : u.lookup name = t.lookup name) (hbaseline : u.baseline name = t.baseline name) :
    FirstWins setting (vs ++ [v]) u name := by
  cases h with
  | free hnone hl hb =>
    refine .free (fun w hw => ?_) (hlookup.trans hl) (hbaseline.trans hb)
    rcases List.mem_append.1 hw with hw | hw
    · exact hnone w hw
    · rw [List.mem_singleton.1 hw]
      exact hv
  | bound hgiven hb hl hkept hreplaced =>
    exact keep hgiven hkept hreplaced (fun htables => hv htables.names) (hlookup.trans hl)
      (hbaseline.trans hb)

/-- A visited command keeps what is known of a name. -/
theorem step (h : FirstWins setting vs v.session.table name) (hv : v.session.table.Reachable) :
    FirstWins setting (vs ++ [v]) (v.after setting) name := by
  rcases Visit.after_name setting hv name with ⟨hnone, hsame⟩ | ⟨a, kind, ha, hk, heffect⟩
  · rw [hsame]
    refine h.idle ?_ rfl rfl
    rintro ⟨d, hd, -⟩
    rw [Visit.declared?, hnone] at hd
    cases hd
  · have hdeclared : v.declared? setting = a.declares? := by rw [Visit.declared?, ha]; rfl
    cases heffect with
    | kept hd hb hl =>
      refine h.idle ?_ ?_ hl
      · rintro ⟨d, hfound, hname⟩
        exact hd d (hdeclared ▸ hfound) hname
      · unfold SymbolTable.lookup
        rw [hb]
    | @first d value hd hname hid hfree hvalue ht hb hl =>
      -- What a visit finds of a name tells which of the two is known of it.
      cases h with
      | bound hgiven hbaseline hlookup =>
        rw [SymbolTable.lookup, hfree] at hlookup
        cases hlookup
      | free hnone _ _ =>
        have hgiven : FirstGiven setting name (vs ++ [v]) [] value :=
          ⟨hid, vs, v, d, kind, rfl, hnone, hdeclared.trans hd, hname, hk, hvalue, ht⟩
        have hlookup : (v.after setting).lookup name = some value := by
          rw [SymbolTable.lookup, hb]
          rfl
        refine .bound hgiven hl hlookup (fun _ => rfl) ?_
        rintro ⟨w, hw, -⟩
        cases hw
    | @again d b hd hname hr hbound ht hb hl =>
      cases h with
      | free _ hlookup _ =>
        rw [SymbolTable.lookup, hbound] at hlookup
        cases hlookup
      | @bound later value found hgiven hbaseline hlookup hkept hreplaced =>
        refine keep hgiven hkept hreplaced ?_ ?_ (hl.trans hbaseline)
        · -- A table replaces what it finds bound, and this command only counts.
          rintro ⟨q, hq, -⟩
          rw [ha] at hq
          cases hq
          cases hd
          cases hr
        · rw [SymbolTable.lookup, hbound] at hlookup
          rw [SymbolTable.lookup, hb]
          exact hlookup
    | @replaced d b value' hd hname hr hbound hvalue ht hb hl =>
      cases h with
      | free _ hlookup _ =>
        rw [SymbolTable.lookup, hbound] at hlookup
        cases hlookup
      | @bound later value found hgiven hbaseline hlookup hkept hreplaced =>
        -- A table has come after the first declaration, so the value need not be the first one.
        obtain ⟨q, rfl, rfl⟩ := Action.table_of_replaces hd hr
        have hlookup' : (v.after setting).lookup name = some value' := by
          rw [SymbolTable.lookup, hb]
          rfl
        refine .bound (hgiven.snoc v) (hl.trans hbaseline) hlookup' (fun h => ?_) fun _ => ht
        exact absurd ⟨q, ha, hname⟩ (h v (List.mem_append_right _ (List.mem_singleton_self v)))

/-- What is known of a name holds along a trail. -/
theorem trail {ws : List Visit} (h : FirstWins setting vs t name) (htrail : Trail setting t ws u) :
    FirstWins setting (vs ++ ws) u name := by
  induction htrail generalizing vs with
  | done hsame =>
    rw [List.append_nil]
    exact h.of_unrecorded hsame
  | @step t u v ws hsame hv _ ih =>
    rw [List.append_cons]
    exact ih ((h.of_unrecorded hsame).step hv)

end FirstWins

theorem Visit.passed?_action {status : Status} {a b : Action} (hc : v.command = .action status a)
    (h : v.passed? setting = some b) : b = a := by
  unfold Visit.passed? at h
  rw [hc] at h
  split at h
  · rename_i heq _
    cases heq
    cases h
    rfl
  · cases h

/-- A visited command leaves the value of a bound name, unless it is a selection table under the
name; then the value is a map. -/
theorem Visit.lookup_step (setting : Setting) {value : Value} (hv : v.session.table.Reachable)
    (h : v.session.table.lookup name = some value) :
    (¬v.Tables setting name ∧ (v.after setting).lookup name = some value) ∨
      v.Tables setting name ∧
        ∃ found, (v.after setting).lookup name = some found ∧ found.type = .map := by
  rcases Visit.after_name setting hv name with ⟨hnone, hsame⟩ | ⟨a, kind, ha, -, heffect⟩
  · refine .inl ⟨?_, by rw [hsame, h]⟩
    rintro ⟨q, hq, -⟩
    rw [hnone] at hq
    cases hq
  · have hdeclared {q : SelectionTable} (hq : v.passed? setting = some (.table q)) :
        a.declares? = some ⟨q.identifier, .map, Check.tableValue q, .replaces⟩ := by
      obtain rfl := Option.some.inj (ha.symm.trans hq)
      rfl
    cases heffect with
    | kept hd hb hl =>
      refine .inl ⟨?_, by rw [SymbolTable.lookup, hb]; exact h⟩
      rintro ⟨q, hq, hname⟩
      exact hd _ (hdeclared hq) hname
    | first hd hname hid hfree =>
      rw [SymbolTable.lookup, hfree] at h
      cases h
    | again hd hname hr hbound ht hb hl =>
      rw [SymbolTable.lookup, hbound] at h
      refine .inl ⟨?_, by rw [SymbolTable.lookup, hb]; exact h⟩
      -- A table replaces what it finds bound, and this command only counts.
      rintro ⟨q, hq, -⟩
      rw [hdeclared hq] at hd
      cases hd
      cases hr
    | @replaced d b found hd hname hr hbound hvalue ht hb hl =>
      obtain ⟨q, rfl, rfl⟩ := Action.table_of_replaces hd hr
      exact .inr ⟨⟨q, ha, hname⟩, found, by rw [SymbolTable.lookup, hb]; rfl, ht⟩

/-- A visited command that is no selection table leaves the value of a bound name. -/
theorem Visit.lookup_after (setting : Setting) {value : Value} (hv : v.session.table.Reachable)
    (hn : ∀ q, v.passed? setting ≠ some (.table q))
    (h : v.session.table.lookup name = some value) :
    (v.after setting).lookup name = some value := by
  rcases Visit.lookup_step setting hv h with ⟨-, hsame⟩ | ⟨⟨q, hq, -⟩, -⟩
  · exact hsame
  · exact absurd hq (hn q)

/-- Along a trail, a bound name keeps its value unless a selection table replaces it. -/
theorem Trail.lookup {vs : List Visit} {value : Value} (h : Trail setting t vs u)
    (hb : t.lookup name = some value) :
    ∃ found, u.lookup name = some found ∧
      ((∀ w ∈ vs, ¬w.Tables setting name) → found = value) ∧
      ((∃ w ∈ vs, w.Tables setting name) → found.type = .map) := by
  induction h generalizing value with
  | done hsame =>
    refine ⟨value, (lookup_of_unrecorded hsame name).trans hb, fun _ => rfl, ?_⟩
    rintro ⟨w, hw, -⟩
    cases hw
  | @step t u v vs hsame hv _ ih =>
    have hfound := (lookup_of_unrecorded hsame name).trans hb
    rcases Visit.lookup_step setting hv hfound with ⟨hn, hkept⟩ | ⟨htable, value', hnew, hmap⟩
    · obtain ⟨found, hlast, hsame, hmaps⟩ := ih hkept
      refine ⟨found, hlast, fun hall => hsame (List.forall_mem_cons.1 hall).2, ?_⟩
      rintro ⟨w, hw, htables⟩
      rcases List.mem_cons.1 hw with rfl | hw
      · exact absurd htables hn
      · exact hmaps ⟨w, hw, htables⟩
    · obtain ⟨found, hlast, hsame, hmaps⟩ := ih hnew
      refine ⟨found, hlast, fun hall => ?_, fun _ => ?_⟩
      · exact absurd htable (List.forall_mem_cons.1 hall).1
      · by_cases hlater : ∃ w ∈ vs, w.Tables setting name
        · exact hmaps hlater
        · rw [hsame fun w hw htables => hlater ⟨w, hw, htables⟩]
          exact hmap

/-- A visited command leaves the name that it declares with a value of the declared type. -/
theorem Visit.lookup_declared (setting : Setting) {d : Declares} (hv : v.session.table.Reachable)
    (hd : v.declared? setting = some d) :
    ∃ value, (v.after setting).lookup d.name = some value ∧ value.type = d.type := by
  obtain ⟨b, hb, hdeclares⟩ := Option.bind_eq_some_iff.1 hd
  rcases Visit.after_name setting hv d.name with ⟨hnone, -⟩ | ⟨a, kind, ha, -, heffect⟩
  · rw [hnone] at hb
    cases hb
  · obtain rfl := Option.some.inj (ha.symm.trans hb)
    have hsame {d' : Declares} (hd' : a.declares? = some d') : d' = d :=
      Option.some.inj (hd'.symm.trans hdeclares)
    cases heffect with
    | kept hfree => exact absurd rfl (hfree d hdeclares)
    | first hd' _ _ _ _ ht hb =>
      exact ⟨_, by rw [SymbolTable.lookup, hb]; rfl, hsame hd' ▸ ht⟩
    | again hd' _ _ _ ht hb => exact ⟨_, by rw [SymbolTable.lookup, hb]; rfl, hsame hd' ▸ ht⟩
    | replaced hd' _ _ _ _ ht hb =>
      exact ⟨_, by rw [SymbolTable.lookup, hb]; rfl, hsame hd' ▸ ht⟩

/-- The first declaration of a name wins. From an empty table on, at every moment and whatever
fails, a bound name has the value and the first value that the first command to declare it gave,
until a selection table replaces the value; and no other command changes the value of a bound
name. -/
theorem runSeries_firstWins (cs : List Command) (hs : s.table = {}) :
    (∀ before later, seriesVisits setting cs s = before ++ later → ∀ name,
      FirstWins setting before (tableAt later (runSeries setting cs s).table) name) ∧
    ∀ v ∈ seriesVisits setting cs s, ∀ status a, v.command = .action status a →
      (∀ q, a ≠ .table q) → ∀ name value, v.session.table.lookup name = some value →
      (v.ran setting).session.table.lookup name = some value := by
  have hreachable : s.table.Reachable := hs ▸ .empty
  have htrail := trail_series setting cs hreachable
  refine ⟨fun before later hvs name => ?_, fun v hv status a hc ha name value hvalue => ?_⟩
  · have hstart : FirstWins setting [] s.table name := by
      rw [hs]
      exact .free (fun _ h => absurd h List.not_mem_nil) rfl rfl
    rw [hvs] at htrail
    exact hstart.trail htrail.upTo
  · have hafter := Visit.lookup_after setting (htrail.reachable v hv) (fun q hq => ?_) hvalue
    · rw [Visit.after, hc] at hafter
      exact hafter
    · exact ha q (Visit.passed?_action hc hq).symm

theorem runSeries_firstWins_redeclaring :
    FirstWins {} (seriesVisits {} [redeclaring] {}) (runSeries {} [redeclaring] {}).table "Q" ∧
      (runSeries {} [redeclaring] {}).table.baseline "Q" = some (.integer 0) ∧
      ((runSeries {} [redeclaring] {}).table.lookup "Q").map Value.type = some .map :=
  ⟨(runSeries_firstWins [redeclaring] rfl).1 _ [] (List.append_nil _).symm "Q", rfl, rfl⟩

end DialogScript
