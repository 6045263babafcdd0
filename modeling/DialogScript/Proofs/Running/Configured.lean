import DialogScript.Proofs.Running.Declared
import DialogScript.Proofs.Table.Nested

/-!
The option maps of a run. Each of them was stored by a visited command that passed, and is never
touched again: so it is as well formed as the checks have made it, whatever came later and whatever
failed. Its name stays bound, with a type that the command accepts, until a selection table takes
the place of the value.
-/

namespace DialogScript

variable {setting : Setting} {s : Session} {t u : SymbolTable} {v : Visit} {kind : CommandKind}
  {name : String} {m : Value}

theorem optionsOf_of_unrecorded (h : t.unrecorded = u.unrecorded) (kind : CommandKind)
    (name : String) : t.optionsOf kind name = u.optionsOf kind name := by
  show t.unrecorded.optionsOf kind name = u.unrecorded.optionsOf kind name
  rw [h]

/-- The option map that a write leaves. -/
theorem optionsOf_apply (t : SymbolTable) (w : SymbolTable.Write) (kind : CommandKind)
    (name : String) : (t.apply w).optionsOf kind name =
      Keyed.latest (kind, name) (t.optionsOf kind name) (Check.stored? w).toList := by
  by_cases hw : (SymbolTable.Change.write w).spot = .options kind name
  · cases w with
    | setOptions kind' other value =>
      cases hw
      -- Without a journal nothing is noted, so that only the put is left to look at.
      show (t.change (.write (.setOptions kind name value))).contents.optionsOf kind name = _
      rw [SymbolTable.contents_change]
      exact (Keyed.lookup_put_self _ _ _).trans (if_pos rfl).symm
    | _ => cases hw
  · rw [show (t.apply w).optionsOf kind name = t.optionsOf kind name from
      SymbolTable.optionsOf_change_of_ne hw]
    cases w with
    | setOptions kind' other value =>
      have hne : (kind', other) ≠ (kind, name) := fun heq => hw (by cases heq; rfl)
      exact (if_neg hne).symm
    | _ => rfl

/-! ## Where option maps come from -/

/-- A visited command of a kind passes, declares a name with a type that the kind accepts, and may
store an option map for it. -/
structure Visit.Configures (setting : Setting) (kind : CommandKind) (name : String)
    (type : ValueType) (m : Value) (v : Visit) : Prop where
  isKind : v.command.kind? = some kind
  declares : ∃ d, v.declared? setting = some d ∧ d.name = name ∧ d.type = type
  accepts : kind.accepts type = true
  wellFormed : Check.WellFormed setting.host kind type m

/-- Some visited commands have left an option map: one of them has stored it. The others came
later. -/
def StoredBy (setting : Setting) (kind : CommandKind) (name : String) (type : ValueType)
    (m : Value) (vs later : List Visit) : Prop :=
  ∃ before v, vs = before ++ v :: later ∧ v.Configures setting kind name type m

/-- A visited command leaves the option maps that it finds, and those that it stores. -/
theorem Visit.options_after (setting : Setting) (hv : v.session.table.Reachable)
    (h : (v.after setting).optionsOf kind name = some m) :
    v.session.table.optionsOf kind name = some m ∨
      ∃ type, v.Configures setting kind name type m := by
  rcases Visit.after_effect setting hv with
    ⟨-, hsame⟩ | ⟨a, kind', binding, others, ha, hk, heffect, hc⟩
  · rw [hsame] at h
    exact .inl h
  · have hleft : (v.session.table.applyAll (binding ++ others)).optionsOf kind name = some m :=
      (congrArg (fun t => t.optionsOf kind name) hc).symm.trans h
    rw [SymbolTable.latest_applyAll (fun t => t.optionsOf kind name)
      fun t w => optionsOf_apply t w kind name, List.filterMap_append,
      heffect.binds.filterMap (fun _ _ => rfl) (fun _ _ => rfl), List.nil_append] at hleft
    refine (Keyed.mem_of_latest hleft).imp_right fun hmem => ?_
    have hstores := heffect.stores
    generalize others.filterMap Check.stored? = stored at hmem hstores
    cases hstores with
    | nothing => cases hmem
    | @map d kind'' m' hd hk' haccepts hm =>
      cases List.mem_singleton.1 hmem
      -- The kind of the action is that of the command.
      obtain rfl : kind' = kind'' :=
        Option.some.inj (hk.symm.trans ((Visit.kind?_of_passed ha).trans hk'))
      have hdeclared : v.declared? setting = some d := by rw [Visit.declared?, ha]; exact hd
      exact ⟨d.type, hk, ⟨d, hdeclared, rfl, rfl⟩, haccepts, hm⟩

/-- Along a trail, an option map was there before or has been stored by a visited command. -/
theorem Trail.options {vs : List Visit} (h : Trail setting t vs u)
    (hm : u.optionsOf kind name = some m) :
    t.optionsOf kind name = some m ∨
      ∃ type later, StoredBy setting kind name type m vs later := by
  induction h with
  | done hsame =>
    rw [optionsOf_of_unrecorded hsame] at hm
    exact .inl hm
  | @step t u v vs hsame hv _ ih =>
    rcases ih hm with hafter | ⟨type, later, before, w, rfl, hw⟩
    · rcases Visit.options_after setting hv hafter with hbefore | ⟨type, hstored⟩
      · rw [optionsOf_of_unrecorded hsame] at hbefore
        exact .inl hbefore
      · exact .inr ⟨type, vs, [], v, rfl, hstored⟩
    · exact .inr ⟨type, later, v :: before, w, rfl, hw⟩

/-- Every option map that is there at some moment of a run, from a table without option maps on, is
well formed, whatever has failed before. -/
theorem runSeries_wellFormed (cs : List Command) (hs : s.table.Reachable)
    (he : s.table.options = []) (before later : List Visit)
    (hvs : seriesVisits setting cs s = before ++ later) (kind : CommandKind) (name : String)
    (m : Value)
    (hm : (tableAt later (runSeries setting cs s).table).optionsOf kind name = some m) :
    ∃ type, Check.WellFormed setting.host kind type m ∧
      ∃ v ∈ before, v.Configures setting kind name type m := by
  have htrail := trail_series setting cs hs
  rw [hvs] at htrail
  have hnone : s.table.optionsOf kind name = none := by rw [SymbolTable.optionsOf, he]; rfl
  rcases htrail.upTo.options hm with hstart | ⟨type, _, _, v, rfl, hv⟩
  · rw [hnone] at hstart
    cases hstart
  · exact ⟨type, hv.wellFormed, v, List.mem_append_right _ List.mem_cons_self, hv⟩

/-- A text in a script. -/
def textSlot (text : String) : Expr := .literal none (.string text)

/-- A parameter that is shown. -/
def shown (name : String) (display : Display) : Command :=
  .action {} (.showParam { name, subtype := .int, display })

/-- A conditional that fails, in which a parameter is shown with an image and another one with an
image that has no tooltip, and a selection of a type that the host knows and of one that it does
not. -/
def displaying : List Command :=
  [.conditional {} [.mk none .absent
      [shown "Q" { tooltip := textSlot "t", image := textSlot "i" },
        shown "P" { image := textSlot "i" }]] [] 7,
    .action {} (.select { target := .one "R" false, types := [textSlot "AXIS", textSlot "X"] })]

theorem runSeries_wellFormed_displaying :
    ((runSeries {} displaying {}).table.optionsOf .showParam "P").isNone = true ∧
      ∃ m, (runSeries {} displaying {}).table.optionsOf .userSelectOptional "R" = some m ∧
        m.field? "allowed_types" = some (.array [.integer 21, .integer (-1)]) ∧
        ∃ type, Check.WellFormed .bundled .userSelectOptional type m := by
  have hset :
      ((runSeries {} displaying {}).table.optionsOf .userSelectOptional "R").isSome = true := rfl
  have hcodes : ((runSeries {} displaying {}).table.optionsOf .userSelectOptional "R").bind
      (·.field? "allowed_types") = some (.array [.integer 21, .integer (-1)]) := rfl
  obtain ⟨m, hm⟩ := Option.isSome_iff_exists.1 hset
  rw [hm] at hcodes
  obtain ⟨type, hwell, -⟩ := runSeries_wellFormed displaying .empty rfl _ []
    (List.append_nil _).symm .userSelectOptional "R" m hm
  exact ⟨rfl, m, hm, hcodes, type, hwell⟩

/-! ## Configured names -/

/-- The name of an option map is bound at every moment of a run, with the type that it had when the
map was stored, and this is one that the kind of the command accepts. Only a selection table under
the name that came later gives it another, that of a map. -/
theorem runSeries_configured (cs : List Command) (hs : s.table.Reachable)
    (he : s.table.options = []) (before later : List Visit)
    (hvs : seriesVisits setting cs s = before ++ later) (kind : CommandKind) (name : String)
    (m : Value)
    (hm : (tableAt later (runSeries setting cs s).table).optionsOf kind name = some m) :
    ∃ type since value, StoredBy setting kind name type m before since ∧
      kind.accepts type = true ∧
      (tableAt later (runSeries setting cs s).table).lookup name = some value ∧
      ((∀ w ∈ since, ¬w.Tables setting name) → value.type = type) ∧
      ((∃ w ∈ since, w.Tables setting name) → value.type = .map) := by
  have htrail := trail_series setting cs hs
  rw [hvs] at htrail
  have hnone : s.table.optionsOf kind name = none := by rw [SymbolTable.optionsOf, he]; rfl
  rcases htrail.upTo.options hm with hstart | ⟨type, since, hstored⟩
  · rw [hnone] at hstart
    cases hstart
  obtain ⟨first, v, rfl, hv⟩ := id hstored
  obtain ⟨d, hd, rfl, rfl⟩ := hv.declares
  -- The command that stores the map has declared the name, and the value stays from there on.
  have hreachable := htrail.upTo.reachable v (List.mem_append_right _ List.mem_cons_self)
  obtain ⟨value, hvalue, htype⟩ := Visit.lookup_declared setting hreachable hd
  obtain ⟨found, hfound, hsame, hmap⟩ := htrail.upTo.past.lookup hvalue
  exact ⟨d.type, since, found, hstored, hv.accepts, hfound,
    fun hall => by rw [hsame hall, htype], hmap⟩

/-- The conditional fails, but what has been shown in it stays configured. -/
theorem runSeries_configured_displaying :
    ∃ type value, CommandKind.showParam.accepts type = true ∧
      (runSeries {} displaying {}).table.lookup "Q" = some value ∧ value.type = type := by
  have hset : ((runSeries {} displaying {}).table.optionsOf .showParam "Q").isSome = true := rfl
  obtain ⟨m, hm⟩ := Option.isSome_iff_exists.1 hset
  obtain ⟨type, since, value, ⟨before, v, hvs, -⟩, haccepts, hvalue, hkept, -⟩ :=
    runSeries_configured displaying .empty rfl _ [] (List.append_nil _).symm .showParam "Q" m hm
  refine ⟨type, value, haccepts, hvalue, hkept fun w hw ⟨q, hq, _⟩ => ?_⟩
  have hvisited : w ∈ seriesVisits {} displaying {} :=
    hvs ▸ List.mem_append_right _ (List.mem_cons_of_mem v hw)
  have hnone : ((seriesVisits {} displaying {}).filterMap (Visit.passed? {})).all
      (fun a => match a with | .table _ => false | _ => true) = true := rfl
  cases List.all_eq_true.1 hnone _ (List.mem_filterMap.2 ⟨w, hvisited, hq⟩)

/-- A selection table takes the place of a parameter, whose options stay: its type is none that they
are stored for. -/
theorem runSeries_configured_replaced :
    ∃ m value,
      (runSeries {} [shown "Q" { tooltip := textSlot "t" }, .action {} (.table (emptyTable "Q"))]
        {}).table.optionsOf .showParam "Q" = some m ∧
      (runSeries {} [shown "Q" { tooltip := textSlot "t" }, .action {} (.table (emptyTable "Q"))]
        {}).table.lookup "Q" = some value ∧
      CommandKind.showParam.accepts value.type = false :=
  ⟨_, _, rfl, rfl, rfl⟩

end DialogScript
