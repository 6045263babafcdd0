import DialogScript.Proofs.Running.Tracked

/-!
The entries that exist at most once, the configuration of the dialog and its main picture. A command
sets one only if it finds none, so along a run the first command that passes sets it and it stays as
it is, at every depth and whatever fails; a later one is refused. Pictures are put on a main one
that has been set.
-/

namespace DialogScript

variable {setting : Setting} {s : Session} {t u : SymbolTable} {v : Visit} {which : Singleton}

theorem singleton_of_unrecorded (h : t.unrecorded = u.unrecorded) (which : Singleton) :
    t.singleton which = u.singleton which := by
  show t.unrecorded.singleton which = u.unrecorded.singleton which
  rw [h]

/-- The entry that a write leaves. -/
theorem singleton_apply (t : SymbolTable) (w : SymbolTable.Write) (which : Singleton) :
    (t.apply w).singleton which =
      Keyed.latest which (t.singleton which) (Check.set? w).toList := by
  by_cases hw : (SymbolTable.Change.write w).spot = .singleton which
  · cases w with
    | setSingleton other value =>
      cases hw
      show (t.change (.write (.setSingleton which value))).contents.singleton which = _
      rw [SymbolTable.contents_change]
      exact (Keyed.lookup_put_self _ _ _).trans (if_pos rfl).symm
    | _ => cases hw
  · rw [show (t.apply w).singleton which = t.singleton which from
      SymbolTable.singleton_change_of_ne hw]
    cases w with
    | setSingleton other value => exact (if_neg fun heq : other = which => hw (heq ▸ rfl)).symm
    | _ => rfl

/-! ## One command -/

namespace Visit

/-- A visited command passes and sets an entry. -/
def Sets (setting : Setting) (which : Singleton) (v : Visit) : Prop :=
  (v.passed? setting).bind Action.sets? = some which

instance (setting : Setting) (which : Singleton) : DecidablePred (Visit.Sets setting which) :=
  fun v => inferInstanceAs (Decidable ((v.passed? setting).bind Action.sets? = some which))

/-- A visited command leaves an entry as it finds it, or finds none and sets it. -/
theorem singleton_after (setting : Setting) (hv : v.session.table.Reachable) (which : Singleton) :
    (¬v.Sets setting which ∧
        (v.after setting).singleton which = v.session.table.singleton which) ∨
      v.Sets setting which ∧ v.session.table.singleton which = none ∧
        (v.after setting).singleton which ≠ none := by
  rcases Visit.after_effect setting hv with
    ⟨hnone, hsame⟩ | ⟨a, kind, binding, others, ha, -, heffect, hc⟩
  · refine .inl ⟨?_, by rw [hsame]⟩
    rw [Sets, hnone]
    exact (Option.some_ne_none which).symm
  · have hleft : (v.after setting).singleton which =
        (v.session.table.applyAll (binding ++ others)).singleton which :=
      congrArg (fun t => t.singleton which) hc
    rw [hleft, SymbolTable.latest_applyAll (fun t => t.singleton which)
      fun t w => singleton_apply t w which, List.filterMap_append,
      heffect.binds.filterMap (fun _ _ => rfl) (fun _ _ => rfl), List.nil_append]
    have hsets := heffect.sets
    have hiff : v.Sets setting which ↔ a.sets? = some which := by rw [Sets, ha]; rfl
    rw [hiff]
    generalize others.filterMap Check.set? = entries at hsets ⊢
    generalize a.sets? = found at hsets ⊢
    cases hsets with
    | nothing => exact .inl ⟨(Option.some_ne_none which).symm, rfl⟩
    | @entry other hfree value =>
      by_cases ho : other = which
      · subst ho
        refine .inr ⟨rfl, hfree, ?_⟩
        rw [Keyed.latest, if_pos rfl]
        exact Option.some_ne_none value
      · exact .inl ⟨fun heq => ho (Option.some.inj heq), if_neg ho⟩

end Visit

/-- The entry that a command asks to set. A main picture that is left out asks for nothing. -/
def Command.once? : Command → Option Singleton
  | action _ (.configure _) => some .configElem
  | action _ (.globalPicture picture) => if picture.isAbsent then none else some .globalPicture
  | _ => none

/-- A visited command fails as one that may not be repeated. -/
structure Visit.Repeated (setting : Setting) (v : Visit) : Prop where
  failed : (v.ran setting).ending = .ok false
  reported : ∃ d, (v.ran setting).session.diagnostics = v.session.diagnostics ++ [d] ∧
    d.severity = .error ∧ d.code = "E402"

/-- The check of a command that asks for an entry that is set. -/
theorem check_repeated {status : Status} {a : Action} (host : HostConfig)
    (ha : (Command.action status a).once? = some which) (hset : s.table.singleton which ≠ none) :
    ∃ kind, a.kind? = some kind ∧ Check.action a ⟨kind, host⟩ s =
      (.error (.error { problem := .repeatedCommand kind, span := none }), s) := by
  obtain ⟨value, hvalue⟩ := Option.ne_none_iff_exists'.1 hset
  -- The entry is looked up first, after a picture has been found to be given.
  cases a with
  | configure c =>
    cases ha
    refine ⟨.configElem, rfl, ?_⟩
    show Check.configuration c _ s = _
    rw [Check.configuration, Check.bind_of_ok (a := some value) (congrArg Except.ok hvalue)]
    rfl
  | globalPicture picture =>
    simp only [Command.once?, Option.ite_none_left_eq_some, Option.some.injEq] at ha
    obtain ⟨hgiven, rfl⟩ := ha
    refine ⟨.globalPicture, rfl, ?_⟩
    have hpresent : Check.requirePresent picture "picture" ⟨.globalPicture, host⟩ s = (.ok (), s) :=
      congrArg (fun m : Check Unit => m ⟨.globalPicture, host⟩ s) (if_neg hgiven)
    show Check.globalPicture picture _ s = _
    rw [Check.globalPicture, Check.bind_of_ok (congrArg Prod.fst hpresent), hpresent,
      Check.bind_of_ok (a := some value) (congrArg Except.ok hvalue)]
    rfl
  | _ => cases ha

theorem Visit.repeated_of_set {status : Status} {a : Action}
    (ha : (Command.action status a).once? = some which) (hset : s.table.singleton which ≠ none)
    (hx : setting.exhausted ≠ a.kind?) : Visit.Repeated setting ⟨.action status a, s⟩ := by
  obtain ⟨kind, hk, -⟩ := check_repeated setting.host ha hset
  obtain ⟨kind', hk', hcheck⟩ :=
    check_repeated (s := s.entered kind status.span) setting.host ha hset
  obtain rfl : kind = kind' := Option.some.inj (hk.symm.trans hk')
  have hran : Visit.ran setting ⟨.action status a, s⟩ =
      (s.entered kind status.span).finish kind (.action status a)
        (.error (.problem { problem := .repeatedCommand kind, span := none })) := by
    rw [hk] at hx
    rw [Visit.ran, runCommand, runAction, hk]
    dsimp only
    rw [if_neg hx, hcheck]
    rfl
  refine ⟨by rw [hran]; rfl, (Diagnostic.ofError { problem := .repeatedCommand kind, span := none
    }).attributed (some kind.name) status.span, by rw [hran]; rfl, rfl, rfl⟩

/-- A command that passes has found memory. -/
theorem Visit.supplied_of_passed {a : Action} (h : v.passed? setting = some a) :
    setting.exhausted ≠ a.kind? := by
  intro hx
  unfold passed? at h
  split at h
  · rename_i hc hran
    cases h
    rw [Visit.ran, hc, runCommand] at hran
    cases hk : a.kind? with
    | none =>
      simp only [runAction, hk] at hran
      cases hran
    | some kind =>
      simp only [runAction, hk, hx.trans hk, if_true] at hran
      cases hran
  · cases h

theorem sets?_of_once {status : Status} {a : Action}
    (h : (Command.action status a).once? = some which) : a.sets? = some which := by
  cases a with
  | globalPicture picture => exact (Option.ite_none_left_eq_some.1 h).2
  | _ => exact h

/-- One kind of command sets an entry. -/
theorem kind?_of_sets {a b : Action} (ha : a.sets? = some which) (hb : b.sets? = some which) :
    a.kind? = b.kind? := by
  cases a <;> cases ha <;> cases b <;> cases hb <;> rfl

/-- A visited command passes and puts a picture on the main one. -/
def Visit.Places (setting : Setting) (v : Visit) : Prop :=
  ∃ picture posX posY, v.passed? setting = some (.subPicture picture posX posY)

/-- Only a picture is listed as one. -/
theorem Action.subPicture_of_tracks {a : Action} {m : Check Value}
    (h : a.tracks? = some (.subPictures, m)) :
    ∃ picture posX posY, a = .subPicture picture posX posY := by
  cases a with
  | subPicture picture posX posY => exact ⟨picture, posX, posY, rfl⟩
  | select q =>
    change q.target.tracks? = _ at h
    cases hq : q.target with
    | unspecified =>
      rw [hq] at h
      cases h
    | one name required | many name maxSel required =>
      rw [hq] at h
      cases (requiredItem?_eq_some h).1
  | checkbox q | radio q => cases (requiredItem?_eq_some h).1
  | _ => cases h

theorem Visit.places_of_item {item : Value} (h : v.item? setting .subPictures = some item) :
    v.Places setting := by
  obtain ⟨kind, a, m, ha, hm, -⟩ := Visit.tracks_of_item h
  obtain ⟨picture, posX, posY, rfl⟩ := Action.subPicture_of_tracks hm
  exact ⟨picture, posX, posY, ha⟩

/-- A picture that passes has found the main one. -/
theorem Visit.main_of_places (hv : v.session.table.Reachable) (h : v.Places setting) :
    v.session.table.singleton .globalPicture ≠ none := by
  obtain ⟨picture, posX, posY, hpassed⟩ := h
  rcases Visit.after_effect setting hv with ⟨hnone, -⟩ | ⟨a, kind, binding, others, ha, -, he, -⟩
  · rw [hnone] at hpassed
    cases hpassed
  · exact he.main picture posX posY (Option.some.inj (ha.symm.trans hpassed))

/-! ## A run -/

/-- Along a trail, an entry that is set stays as it is, and no visited command sets it. -/
theorem Trail.set {vs : List Visit} {value : Value} (h : Trail setting t vs u)
    (hset : t.singleton which = some value) :
    u.singleton which = some value ∧ ∀ v ∈ vs, ¬v.Sets setting which := by
  induction h with
  | done hsame =>
    exact ⟨(singleton_of_unrecorded hsame which).trans hset, fun _ hv => absurd hv List.not_mem_nil⟩
  | @step t u v vs hsame hv _ ih =>
    have hfound := (singleton_of_unrecorded hsame which).trans hset
    rcases Visit.singleton_after setting hv which with ⟨hn, hkept⟩ | ⟨-, hfree, -⟩
    · obtain ⟨hlast, hothers⟩ := ih (hkept.trans hfound)
      exact ⟨hlast, List.forall_mem_cons.2 ⟨hn, hothers⟩⟩
    · rw [hfree] at hfound
      cases hfound

/-- Along a trail, an entry that is not set is set by the visited command that sets it, if there is
one, and there is no other. -/
theorem Trail.once {vs : List Visit} (h : Trail setting t vs u) (hfree : t.singleton which = none) :
    (u.singleton which ≠ none ↔ ∃ v ∈ vs, v.Sets setting which) ∧
      vs.countP (fun v => v.Sets setting which) ≤ 1 := by
  induction h with
  | done hsame =>
    rw [singleton_of_unrecorded hsame which, hfree]
    simp
  | @step t u v vs hsame hv hrest ih =>
    have hfound := (singleton_of_unrecorded hsame which).trans hfree
    rcases Visit.singleton_after setting hv which with ⟨hn, hkept⟩ | ⟨hsets, -, hset⟩
    · obtain ⟨hiff, hcount⟩ := ih (hkept.trans hfound)
      rw [hiff, List.countP_cons_of_neg (by simpa using hn)]
      refine ⟨?_, hcount⟩
      simp [hn]
    · -- The entry is set from here on, so that no other command sets it.
      obtain ⟨value, hvalue⟩ := Option.ne_none_iff_exists'.1 hset
      obtain ⟨hlast, hothers⟩ := hrest.set hvalue
      rw [List.countP_cons_of_pos (by simpa using hsets),
        List.countP_eq_zero.2 (by simpa using hothers), hlast]
      simp [hsets]

/-- What is known of an entry from a moment on at which it is set: it stays as it is, in what every
command finds and leaves, and a command that asks for it fails. -/
structure SetOnce (setting : Setting) (which : Singleton) (value : Value) (later : List Visit)
    (left : SymbolTable) : Prop where
  left : left.singleton which = some value
  found : ∀ v ∈ later, v.session.table.singleton which = some value ∧
    (v.ran setting).session.table.singleton which = some value
  repeated : ∀ v ∈ later, v.command.once? = some which → v.Repeated setting

/-- From a moment on at which an entry is set by a command that passes. -/
theorem Trail.setOnce {vs : List Visit} {value : Value} (h : Trail setting t vs u)
    (hset : t.singleton which = some value) (hv : v.Sets setting which) :
    SetOnce setting which value vs u := by
  obtain ⟨b, hpassed, hb⟩ := Option.bind_eq_some_iff.1 hv
  have hfound (v : Visit) (hv : v ∈ vs) : v.session.table.singleton which = some value := by
    obtain ⟨before, later, rfl⟩ := List.append_of_mem hv
    exact (h.upTo.set hset).1
  refine ⟨(h.set hset).1, fun v hv => ⟨hfound v hv, ?_⟩, fun v hv hasks => ?_⟩
  · exact ((trail_command setting v.command (h.reachable v hv)).set (hfound v hv)).1
  · obtain ⟨c, s⟩ := v
    cases c with
    | action status a =>
      -- Memory is found for the one as it was for the other.
      have hx := Visit.supplied_of_passed hpassed
      rw [kind?_of_sets hb (sets?_of_once hasks)] at hx
      exact Visit.repeated_of_set hasks (by rw [hfound _ hv]; exact nofun) hx
    | _ => cases hasks

/-- Along a trail, pictures are listed only once the main one is set. -/
theorem Trail.main_of_listed {vs : List Visit} (h : Trail setting t vs u)
    (hnone : t.trackedList .subPictures = none) (hlist : u.trackedList .subPictures ≠ none) :
    u.singleton .globalPicture ≠ none := by
  rw [h.trackedList, hnone] at hlist
  -- An item of the list is that of a picture that has passed, and the main one was set then.
  obtain ⟨item, hitem⟩ : ∃ item, item ∈ vs.filterMap (Visit.item? setting .subPictures) :=
    List.exists_mem_of_ne_nil _ fun hempty => hlist (by rw [hempty]; rfl)
  obtain ⟨v, hv, hitem⟩ := List.mem_filterMap.1 hitem
  obtain ⟨value, hvalue⟩ := Option.ne_none_iff_exists'.1
    (Visit.main_of_places (h.reachable v hv) (Visit.places_of_item hitem))
  obtain ⟨before, later, rfl⟩ := List.append_of_mem hv
  have hkept := (h.onward.set hvalue).1
  rw [hkept]
  exact nofun

/-- At most one main picture and one configuration pass in a run, at every depth and whatever fails.
The entry is there from then on and never changes, and every command that asks for it again fails.
The list of pictures is there only if the main picture is, and a picture passes only after it. -/
theorem runSeries_once (cs : List Command) (hs : s.table.Reachable)
    (he : s.table.singletons = []) (ht : s.table.tracked = []) :
    (∀ which, (seriesVisits setting cs s).countP (fun v => v.Sets setting which) ≤ 1) ∧
    ∀ before later, seriesVisits setting cs s = before ++ later →
      (∀ which, (tableAt later (runSeries setting cs s).table).singleton which ≠ none ↔
        ∃ v ∈ before, v.Sets setting which) ∧
      (∀ which value, (tableAt later (runSeries setting cs s).table).singleton which = some value →
        SetOnce setting which value later (runSeries setting cs s).table) ∧
      ((tableAt later (runSeries setting cs s).table).trackedList .subPictures ≠ none →
        (tableAt later (runSeries setting cs s).table).singleton .globalPicture ≠ none) ∧
      ∀ v rest, later = v :: rest → v.Places setting →
        ∃ w ∈ before, w.Sets setting .globalPicture := by
  have htrail := trail_series setting cs hs
  have hfree (which : Singleton) : s.table.singleton which = none := by
    rw [SymbolTable.singleton, he]
    rfl
  refine ⟨fun which => (htrail.once (hfree which)).2, fun before later hvs => ?_⟩
  rw [hvs] at htrail
  have hiff (which : Singleton) := (htrail.upTo.once (hfree which)).1
  refine ⟨hiff, fun which value hset => ?_, fun hlist => ?_, ?_⟩
  · obtain ⟨v, -, hv⟩ := (hiff which).1 (by rw [hset]; exact Option.some_ne_none value)
    exact htrail.onward.setOnce hset hv
  · exact htrail.upTo.main_of_listed (by rw [SymbolTable.trackedList, ht]; rfl) hlist
  · rintro v rest rfl hv
    have hreachable := htrail.reachable v (List.mem_append_right _ List.mem_cons_self)
    exact (hiff .globalPicture).1 (Visit.main_of_places hreachable hv)

/-- A main picture. -/
def mainPicture (file : String) : Command :=
  .action {} (.globalPicture (.literal none (.string file)))

/-- A main picture that fails, and a conditional that fails, in which a main picture and one on it
pass, and then another main one is refused. -/
def picturing : List Command :=
  [mainPicture "",
    .conditional {} [.mk none .absent
      [mainPicture "g.png",
        .action {} (.subPicture (.literal none (.string "s.png"))
          (.literal none (.integer (.number 1))) (.literal none (.integer (.number 2)))),
        mainPicture "h.png"]] [] 7]

/-- A host that knows no format of pictures. -/
def formatless : Setting := { host := { HostConfig.bundled with imageExtensions := [] } }

theorem runSeries_once_picturing :
    ((runSeries formatless picturing {}).table.trackedList .subPictures).isSome = true ∧
      (runSeries formatless picturing {}).table.singleton .globalPicture ≠ none ∧
      (seriesVisits formatless picturing {}).countP (fun v => v.Sets formatless .globalPicture) =
        1 := by
  have hlist : ((runSeries formatless picturing {}).table.trackedList .subPictures).isSome =
      true := rfl
  obtain ⟨hcount, hmoments⟩ := @runSeries_once formatless {} picturing .empty rfl rfl
  obtain ⟨hiff, -, hmain, -⟩ := hmoments _ [] (List.append_nil _).symm
  have hset := hmain (Option.isSome_iff_ne_none.1 hlist)
  obtain ⟨v, hv, hsets⟩ := (hiff .globalPicture).1 hset
  refine ⟨hlist, hset, Nat.le_antisymm (hcount _) (List.countP_pos_iff.2 ⟨v, hv, ?_⟩)⟩
  exact decide_eq_true hsets

end DialogScript
