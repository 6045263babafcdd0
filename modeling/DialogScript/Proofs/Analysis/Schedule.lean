import DialogScript.Analysis.Script

/-!
The order of an analysis. A pass takes the blocks kind after kind, in place; it does what a run
over one list of commands does, in which each command stands with its place.
-/

namespace DialogScript

/-- A command that stands in a block directly, with the place of the block and its own. -/
structure Entry where
  block : Nat
  place : Nat
  command : Command

/-- The commands of a block, from one place on. -/
def blockEntries (block place : Nat) : List Command → List Entry
  | [] => []
  | c :: rest => ⟨block, place, c⟩ :: blockEntries block (place + 1) rest

/-- The commands of the blocks of a kind, from one place on. -/
def kindEntries (kind : BlockKind) (place : Nat) : List Block → List Entry
  | [] => []
  | b :: rest =>
    (if b.kind = kind then blockEntries place 0 b.commands else []) ++
      kindEntries kind (place + 1) rest

/-- The commands of some blocks in the order of their analysis. -/
def schedule (bs : List Block) : List Entry := BlockKind.all.flatMap (kindEntries · 0 bs)

/-- Takes a pass over scheduled commands. -/
def Pass.through (setting : Setting) (p : Pass) : List Entry → Except Breakdown (List Entry × Pass)
  | [] => .ok ([], p)
  | e :: rest => do
    let (c, p) ← command setting e.block e.place e.command p
    let (rest, p) ← through setting p rest
    pure ({ e with command := c } :: rest, p)

/-! ## Passes in order -/

namespace Pass

variable {setting : Setting} {p q r : Pass}

theorem through_cons {e : Entry} {rest rest' : List Entry} {c : Command}
    (h : command setting e.block e.place e.command p = .ok (c, q))
    (h' : through setting q rest = .ok (rest', r)) :
    through setting p (e :: rest) = .ok ({ e with command := c } :: rest', r) := by
  rw [through, h]
  show (through setting q rest >>= _) = _
  rw [h']
  rfl

/-- A pass that has not broken down: over the first command, and then over the others. -/
theorem through_cons_ok {e : Entry} {rest es : List Entry}
    (h : through setting p (e :: rest) = .ok (es, q)) :
    ∃ c u rest', command setting e.block e.place e.command p = .ok (c, u) ∧
      through setting u rest = .ok (rest', q) ∧ es = { e with command := c } :: rest' := by
  rw [through] at h
  obtain ⟨⟨c, u⟩, hcommand, h⟩ := except_bind_ok h
  obtain ⟨⟨rest', q'⟩, hrest, h⟩ := except_bind_ok h
  cases h
  exact ⟨c, u, rest', hcommand, hrest, rfl⟩

/-- A pass that has broken down: over the first command, or else over the others. -/
theorem through_cons_error {e : Entry} {rest : List Entry} {b : Breakdown}
    (h : through setting p (e :: rest) = .error b) :
    command setting e.block e.place e.command p = .error b ∨
      ∃ c u, command setting e.block e.place e.command p = .ok (c, u) ∧
        through setting u rest = .error b := by
  rw [through] at h
  cases hcommand : command setting e.block e.place e.command p with
  | error b' =>
    rw [hcommand] at h
    cases h
    exact .inl rfl
  | ok found =>
    rw [hcommand] at h
    change (through setting found.2 rest >>= _) = _ at h
    cases hrest : through setting found.2 rest with
    | error b' =>
      rw [hrest] at h
      cases h
      exact .inr ⟨found.1, found.2, rfl, hrest⟩
    | ok others =>
      rw [hrest] at h
      cases h

/-- After a lack of memory a pass changes nothing. -/
theorem through_of_aborted (ha : p.aborted = true) (es : List Entry) :
    through setting p es = .ok (es, p) := by
  induction es with
  | nil => rfl
  | cons e rest ih => exact through_cons (by rw [command, if_pos ha]) ih

/-- A pass that breaks down has been going on from the start. -/
theorem running_of_broken {es : List Entry} {b : Breakdown}
    (h : through setting p es = .error b) : p.aborted = false := by
  cases ha : p.aborted with
  | false => rfl
  | true =>
    rw [through_of_aborted ha] at h
    cases h

/-- The course of a pass that does not break down: it goes from command to command, until memory
has run out or there are no more. -/
inductive Course (setting : Setting) : Pass → List Entry → List Entry → Pass → Prop where
  | done (p : Pass) : Course setting p [] [] p
  | idle {p : Pass} (ha : p.aborted = true) (es : List Entry) : Course setting p es es p
  | step {p u q : Pass} {e : Entry} {rest rest' : List Entry} {c : Command}
      (ha : p.aborted = false) (hcommand : command setting e.block e.place e.command p = .ok (c, u))
      (hrest : Course setting u rest rest' q) :
      Course setting p (e :: rest) ({ e with command := c } :: rest') q

theorem course_of_through {es es' : List Entry} (h : through setting p es = .ok (es', q)) :
    Course setting p es es' q := by
  induction es generalizing p es' with
  | nil =>
    cases h
    exact .done _
  | cons e rest ih =>
    cases ha : p.aborted with
    | true =>
      rw [through_of_aborted ha] at h
      cases h
      exact .idle ha _
    | false =>
      obtain ⟨c, u, rest', hcommand, hrest, rfl⟩ := through_cons_ok h
      exact .step ha hcommand (ih hrest)

/-- A pass that comes to its end has been going on from the start. -/
theorem Course.running {es es' : List Entry} (h : Course setting p es es' q)
    (hq : q.aborted = false) : p.aborted = false := by
  cases h with
  | done => exact hq
  | idle => exact hq
  | step hrun => exact hrun

theorem through_append (first second : List Entry) :
    through setting p (first ++ second) = (do
      let (first, q) ← through setting p first
      let (second, r) ← through setting q second
      pure (first ++ second, r)) := by
  induction first generalizing p with
  | nil =>
    rw [List.nil_append, through]
    show _ = (through setting p second >>= _)
    cases through setting p second <;> rfl
  | cons e rest ih =>
    rw [List.cons_append, through, through]
    cases command setting e.block e.place e.command p with
    | error b => rfl
    | ok found =>
      show (through setting found.2 (rest ++ second) >>= _) = _
      rw [ih]
      show _ = (through setting found.2 rest >>= _) >>= _
      cases through setting found.2 rest with
      | error b => rfl
      | ok others =>
        show (through setting others.2 second >>= _) >>= _ = through setting others.2 second >>= _
        cases through setting others.2 second <;> rfl

theorem through_commands (block place : Nat) (cs : List Command) :
    through setting p (blockEntries block place cs) =
      (commands setting block place p cs).map fun r => (blockEntries block place r.1, r.2) := by
  induction cs generalizing place p with
  | nil => rfl
  | cons c rest ih =>
    rw [blockEntries, through, commands]
    cases command setting block place c p with
    | error b => rfl
    | ok found =>
      show (through setting found.2 _ >>= _) =
        (commands setting block (place + 1) found.2 rest >>= _).map _
      rw [ih]
      cases commands setting block (place + 1) found.2 rest <;> rfl

theorem through_blocks (kind : BlockKind) (place : Nat) (bs : List Block) :
    through setting p (kindEntries kind place bs) =
      (blocks setting kind place p bs).map fun r => (kindEntries kind place r.1, r.2) := by
  induction bs generalizing place p with
  | nil => rfl
  | cons b rest ih =>
    rw [kindEntries, blocks]
    by_cases hk : b.kind = kind
    · rw [if_pos hk, if_pos hk, through_append, through_commands]
      cases commands setting place 0 p b.commands with
      | error b => rfl
      | ok found =>
        show (through setting found.2 _ >>= _) =
          (blocks setting kind (place + 1) found.2 rest >>= _).map _
        rw [ih]
        cases blocks setting kind (place + 1) found.2 rest with
        | error b => rfl
        | ok others =>
          show Except.ok _ = Except.ok (kindEntries kind place ({ b with commands := _ } :: _), _)
          rw [kindEntries, if_pos hk]
    · rw [if_neg hk, if_neg hk, List.nil_append, ih]
      cases blocks setting kind (place + 1) p rest with
      | error b => rfl
      | ok others =>
        show Except.ok _ = Except.ok (kindEntries kind place (b :: _), _)
        rw [kindEntries, if_neg hk]
        rfl

/-- A pass over the blocks of a kind changes no blocks of another kind. -/
theorem kindEntries_blocks {bs bs' : List Block} {kind other : BlockKind} (hother : other ≠ kind)
    {place : Nat} (h : blocks setting kind place p bs = .ok (bs', q)) :
    kindEntries other place bs' = kindEntries other place bs := by
  induction bs generalizing place p bs' with
  | nil =>
    cases h
    rfl
  | cons b rest ih =>
    rw [blocks] at h
    split at h
    · rename_i hk
      obtain ⟨⟨cs, p'⟩, hc, h⟩ := except_bind_ok h
      obtain ⟨⟨rest', q'⟩, hr, h⟩ := except_bind_ok h
      cases h
      have hne : ¬b.kind = other := fun e => hother (e.symm.trans hk)
      rw [kindEntries, kindEntries, if_neg hne, if_neg hne, ih hr]
    · obtain ⟨⟨rest', q'⟩, hr, h⟩ := except_bind_ok h
      cases h
      rw [kindEntries, kindEntries, ih hr]

theorem kindEntries_kinds {ks : List BlockKind} {bs bs' : List Block} {other : BlockKind}
    (hother : other ∉ ks) (h : kinds setting bs p ks = .ok (bs', q)) :
    kindEntries other 0 bs' = kindEntries other 0 bs := by
  induction ks generalizing p bs with
  | nil =>
    cases h
    rfl
  | cons kind rest ih =>
    rw [kinds] at h
    obtain ⟨⟨bs₁, p'⟩, hb, h⟩ := except_bind_ok h
    rw [List.mem_cons, not_or] at hother
    rw [ih hother.2 h, kindEntries_blocks hother.1 hb]

theorem through_kinds {ks : List BlockKind} (bs : List Block) (hn : ks.Nodup) :
    through setting p (ks.flatMap (kindEntries · 0 bs)) =
      (kinds setting bs p ks).map fun r => (ks.flatMap (kindEntries · 0 r.1), r.2) := by
  induction ks generalizing p bs with
  | nil => rfl
  | cons kind rest ih =>
    obtain ⟨hfresh, hrest⟩ := List.nodup_cons.1 hn
    rw [List.flatMap_cons, through_append, through_blocks, kinds]
    cases hb : blocks setting kind 0 p bs with
    | error b => rfl
    | ok found =>
      -- The kinds are apart: a pass over one finds the others as they were, and leaves them so.
      have hlater : rest.flatMap (kindEntries · 0 bs) = rest.flatMap (kindEntries · 0 found.1) := by
        rw [List.flatMap_def, List.flatMap_def]
        refine congrArg _ (List.map_congr_left fun other hother => ?_)
        have hne : other ≠ kind := fun e => hfresh (e ▸ hother)
        exact (kindEntries_blocks hne hb).symm
      show (through setting found.2 _ >>= _) = (kinds setting found.1 found.2 rest).map _
      rw [hlater, ih found.1 hrest]
      cases hk : kinds setting found.1 found.2 rest with
      | error b => rfl
      | ok others =>
        show Except.ok _ = Except.ok ((kind :: rest).flatMap (kindEntries · 0 others.1), others.2)
        rw [List.flatMap_cons, kindEntries_kinds hfresh hk]

end Pass

/-- An analysis runs the commands of the script once, in the order of analysis. -/
theorem Script.through_schedule (setting : Setting) (table : SymbolTable) (script : Script) :
    Pass.through setting { session := { table } } (schedule script.blocks) =
      (Pass.kinds setting script.blocks { session := { table } } BlockKind.all).map
        fun r => (schedule r.1, r.2) :=
  Pass.through_kinds script.blocks (by decide)

/-- An analysis runs the commands of the script once, in the order of analysis, and builds the
watcher index at the end. -/
theorem Script.analyze_through {setting : Setting} {table : SymbolTable} {script : Script}
    {a : Analysis} (h : script.analyze setting table = .ok a) :
    ∃ p, Pass.through setting { session := { table } } (schedule script.blocks) =
        .ok (schedule a.script.blocks, p) ∧ a.pass = p.indexed := by
  rw [Script.analyze] at h
  obtain ⟨⟨bs, p⟩, hk, h⟩ := except_bind_ok h
  cases h
  refine ⟨p, ?_, rfl⟩
  rw [Script.through_schedule, hk]
  rfl

/-- What ends an analysis early ends the run over its commands. -/
theorem Script.analyze_broken {setting : Setting} {table : SymbolTable} {script : Script}
    {b : Breakdown} (h : script.analyze setting table = .error b) :
    Pass.through setting { session := { table } } (schedule script.blocks) = .error b := by
  rw [Script.through_schedule]
  rw [Script.analyze] at h
  cases hk : Pass.kinds setting script.blocks { session := { table } } BlockKind.all with
  | error b =>
    rw [hk] at h
    cases h
    rfl
  | ok found =>
    rw [hk] at h
    cases h

end DialogScript
