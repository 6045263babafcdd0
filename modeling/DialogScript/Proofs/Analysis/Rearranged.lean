import DialogScript.Proofs.Analysis.Schedule
import Mathlib.Data.List.Forall2

/-!
The order of blocks. An analysis takes the blocks kind after kind, so all it knows of a script is
the sequence of the commands of each kind: how the blocks of different kinds stand between each
other, and where a block ends and the next one of its kind begins, makes no difference to anything
that it finds, binds or marks. Two analyses are compared command by command, along two schedules in
which the same commands stand at other places.
-/

namespace DialogScript

/-- The commands of the blocks of a kind, in the order of the blocks. -/
def commandsOf (kind : BlockKind) (bs : List Block) : List Command :=
  (bs.filter (·.kind == kind)).flatMap Block.commands

/-- Two scripts with the same commands of each kind, in the same order. -/
def Script.SameCommands (script script' : Script) : Prop :=
  ∀ kind, commandsOf kind script.blocks = commandsOf kind script'.blocks

/-- The place of the command of a kind with a number, counted over all blocks of the kind. -/
def nthPlace (bs : List Block) (kind : BlockKind) (n : Nat) : Option (Nat × Nat) :=
  (kindEntries kind 0 bs)[n]?.map fun e => (e.block, e.place)

/-- Two places where the commands of a kind with the same number stand. -/
def Counterparts (bs bs' : List Block) (at₁ at₂ : Nat × Nat) : Prop :=
  ∃ kind n, nthPlace bs kind n = some at₁ ∧ nthPlace bs' kind n = some at₂

/-! ## Rearranging blocks -/

theorem commandsOf_append (kind : BlockKind) (bs bs' : List Block) :
    commandsOf kind (bs ++ bs') = commandsOf kind bs ++ commandsOf kind bs' := by
  rw [commandsOf, List.filter_append, List.flatMap_append]
  rfl

theorem commandsOf_cons (kind : BlockKind) (b : Block) (bs : List Block) :
    commandsOf kind (b :: bs) =
      (if b.kind = kind then b.commands else []) ++ commandsOf kind bs := by
  unfold commandsOf
  by_cases hk : b.kind = kind
  · rw [List.filter_cons_of_pos (by simp [hk]), List.flatMap_cons, if_pos hk]
  · rw [List.filter_cons_of_neg (by simp [hk]), if_neg hk, List.nil_append]

/-- Blocks of different kinds can stand between each other in any way. -/
theorem Script.SameCommands.of_blocks {script script' : Script}
    (h : ∀ kind, script.blocks.filter (·.kind == kind) = script'.blocks.filter (·.kind == kind)) :
    script.SameCommands script' := by
  intro kind
  rw [commandsOf, commandsOf, h kind]

/-- A block can be split in two of its kind, and two neighbours of a kind can be merged. -/
theorem Script.SameCommands.of_split {script script' : Script} (before after : List Block)
    (kind : BlockKind) (cs ds : List Command) {whole first second : Option Span}
    (h : script.blocks = before ++ ⟨kind, cs ++ ds, whole⟩ :: after)
    (h' : script'.blocks = before ++ ⟨kind, cs, first⟩ :: ⟨kind, ds, second⟩ :: after) :
    script.SameCommands script' := by
  intro other
  rw [h, h', commandsOf_append, commandsOf_append, commandsOf_cons, commandsOf_cons,
    commandsOf_cons]
  split
  · rw [List.append_assoc]
  · rfl

theorem Script.SameCommands.trans {a b c : Script} (h : a.SameCommands b)
    (h' : b.SameCommands c) : a.SameCommands c :=
  fun kind => (h kind).trans (h' kind)

/-! ## Schedules that match -/

theorem blockEntries_command (block place : Nat) (cs : List Command) :
    (blockEntries block place cs).map Entry.command = cs := by
  induction cs generalizing place with
  | nil => rfl
  | cons c rest ih => rw [blockEntries, List.map_cons, ih]

theorem kindEntries_command (kind : BlockKind) (place : Nat) (bs : List Block) :
    (kindEntries kind place bs).map Entry.command = commandsOf kind bs := by
  induction bs generalizing place with
  | nil => rfl
  | cons b rest ih =>
    rw [kindEntries, List.map_append, ih, commandsOf_cons]
    split
    · rw [blockEntries_command]
    · rfl

/-- Two entries with the same command, at places that correspond. -/
structure Entry.Matches (bs bs' : List Block) (e e' : Entry) : Prop where
  command : e.command = e'.command
  place : Counterparts bs bs' (e.block, e.place) (e'.block, e'.place)

/-- The entries of each kind of two lists of blocks match, at the places of `bs` and `bs'`. -/
def Matching (bs bs' cs cs' : List Block) : Prop :=
  ∀ kind, List.Forall₂ (Entry.Matches bs bs') (kindEntries kind 0 cs) (kindEntries kind 0 cs')

theorem matching_of_sameCommands {script script' : Script} (h : script.SameCommands script') :
    Matching script.blocks script'.blocks script.blocks script'.blocks := by
  intro kind
  have same : (kindEntries kind 0 script.blocks).map Entry.command =
      (kindEntries kind 0 script'.blocks).map Entry.command := by
    rw [kindEntries_command, kindEntries_command, h kind]
  rw [List.forall₂_iff_get]
  refine ⟨by simpa using congrArg List.length same, fun n hn hn' => ⟨?_, kind, n, ?_, ?_⟩⟩
  · have := congrArg (·[n]?) same
    simpa [List.getElem?_eq_getElem hn, List.getElem?_eq_getElem hn'] using this
  · rw [nthPlace, List.getElem?_eq_getElem hn]
    rfl
  · rw [nthPlace, List.getElem?_eq_getElem hn']
    rfl

theorem commands_of_matches {bs bs' : List Block} {es es' : List Entry}
    (h : List.Forall₂ (Entry.Matches bs bs') es es') :
    es.map Entry.command = es'.map Entry.command := by
  induction h with
  | nil => rfl
  | cons he _ ih => rw [List.map_cons, List.map_cons, he.command, ih]

theorem Matching.commandsOf_eq {bs bs' cs cs' : List Block} (h : Matching bs bs' cs cs')
    (kind : BlockKind) : commandsOf kind cs = commandsOf kind cs' := calc
  commandsOf kind cs = (kindEntries kind 0 cs).map Entry.command :=
    (kindEntries_command kind 0 cs).symm
  _ = (kindEntries kind 0 cs').map Entry.command := commands_of_matches (h kind)
  _ = commandsOf kind cs' := kindEntries_command kind 0 cs'

/-! ## Passes in step -/

/-- Two computations break down alike, or give results that are related. -/
inductive InStep {α β : Type} (R : α → β → Prop) : Except Breakdown α → Except Breakdown β → Prop
  | broken (b : Breakdown) : InStep R (.error b) (.error b)
  | done {a : α} {b : β} : R a b → InStep R (.ok a) (.ok b)

namespace InStep

variable {α β γ δ : Type} {R : α → β → Prop} {S : γ → δ → Prop}

theorem bind {x : Except Breakdown α} {y : Except Breakdown β} {f : α → Except Breakdown γ}
    {g : β → Except Breakdown δ} (h : InStep R x y)
    (hf : ∀ a b, x = .ok a → y = .ok b → R a b → InStep S (f a) (g b)) :
    InStep S (x >>= f) (y >>= g) := by
  cases h with
  | broken b => exact .broken b
  | done hr => exact hf _ _ rfl rfl hr

theorem of_map {x : Except Breakdown α} {y : Except Breakdown β} {f : α → γ} {g : β → δ}
    (h : InStep S (x.map f) (y.map g)) : InStep (fun a b => S (f a) (g b)) x y := by
  cases x with
  | error b =>
    cases y with
    | error b' => cases h; exact .broken b
    | ok c => cases h
  | ok a =>
    cases y with
    | error b' => cases h
    | ok c =>
      cases h with
      | done hr => exact .done hr

end InStep

/-- Two passes that have found the same, with invalid commands at places that correspond. -/
structure Pass.Alike (bs bs' : List Block) (p p' : Pass) : Prop where
  session : p.session = p'.session
  aborted : p.aborted = p'.aborted
  invalid : List.Forall₂ (Counterparts bs bs') p.invalid p'.invalid

namespace Pass

variable {setting : Setting} {bs bs' : List Block} {p p' : Pass}

theorem Alike.failing (h : Alike bs bs' p p') {block place block' place' : Nat}
    (hc : Counterparts bs bs' (block, place) (block', place')) (session : Session) :
    Alike bs bs' (p.failing session block place) (p'.failing session block' place') :=
  ⟨rfl, h.aborted, List.rel_append h.invalid (.cons hc .nil)⟩

/-- Over the same command, two passes that are alike go on alike. -/
theorem command_alike (h : Alike bs bs' p p') {e e' : Entry} (he : e.Matches bs bs' e') :
    InStep (fun r r' => r.1 = r'.1 ∧ Alike bs bs' r.2 r'.2)
      (command setting e.block e.place e.command p)
      (command setting e'.block e'.place e'.command p') := by
  rw [command, command, ← he.command, ← h.aborted, ← h.session]
  by_cases ha : p.aborted = true
  · rw [if_pos ha, if_pos ha]
    exact .done ⟨rfl, h⟩
  rw [if_neg ha, if_neg ha]
  dsimp only
  -- the command ends in the same way in both passes
  generalize runTopmost setting e.command p.session = ran
  obtain ⟨tree, ending, session⟩ := ran
  cases ending with
  | ok passed =>
    cases passed with
    | true => exact .done ⟨rfl, rfl, rfl, h.invalid⟩
    | false => exact .done ⟨rfl, h.failing he.place session⟩
  | error f =>
    cases f with
    | outOfMemory m =>
      have hf := h.failing he.place session
      exact .done ⟨rfl, hf.session, rfl, hf.invalid⟩
    | broken b => exact .broken b

/-- Over entries that match, two passes that are alike go on alike. -/
theorem through_alike {es es' : List Entry} (he : List.Forall₂ (Entry.Matches bs bs') es es')
    (h : Alike bs bs' p p') :
    InStep (fun r r' => List.Forall₂ (Entry.Matches bs bs') r.1 r'.1 ∧ Alike bs bs' r.2 r'.2)
      (through setting p es) (through setting p' es') := by
  induction he generalizing p p' with
  | nil => exact .done ⟨.nil, h⟩
  | @cons e e' rest rest' he _ ih =>
    refine (command_alike h he).bind fun r r' _ _ ⟨hc, hp⟩ => ?_
    refine (ih hp).bind fun t t' _ _ ⟨ht, hq⟩ => ?_
    exact .done ⟨.cons ⟨hc, he.place⟩ ht, hq⟩

theorem blocks_alike {cs cs' : List Block} (kind : BlockKind) (hm : Matching bs bs' cs cs')
    (h : Alike bs bs' p p') :
    InStep (fun r r' => List.Forall₂ (Entry.Matches bs bs') (kindEntries kind 0 r.1)
        (kindEntries kind 0 r'.1) ∧ Alike bs bs' r.2 r'.2)
      (blocks setting kind 0 p cs) (blocks setting kind 0 p' cs') := by
  have run : InStep _ (through setting p (kindEntries kind 0 cs))
      (through setting p' (kindEntries kind 0 cs')) := through_alike (hm kind) h
  rw [through_blocks, through_blocks] at run
  exact run.of_map

/-- Kind after kind, the blocks keep matching and the passes stay alike. -/
theorem kinds_alike (ks : List BlockKind) {cs cs' : List Block} (hm : Matching bs bs' cs cs')
    (h : Alike bs bs' p p') :
    InStep (fun r r' => Matching bs bs' r.1 r'.1 ∧ Alike bs bs' r.2 r'.2)
      (kinds setting cs p ks) (kinds setting cs' p' ks) := by
  induction ks generalizing cs cs' p p' with
  | nil => exact .done ⟨hm, h⟩
  | cons kind rest ih =>
    refine (blocks_alike kind hm h).bind fun r r' hr hr' ⟨hk, hp⟩ => ih ?_ hp
    -- blocks of other kinds are as they were
    intro other
    by_cases ho : other = kind
    · exact ho ▸ hk
    · rw [kindEntries_blocks ho hr, kindEntries_blocks ho hr']
      exact hm other

theorem Alike.indexed (h : Alike bs bs' p p') : Alike bs bs' p.indexed p'.indexed := by
  unfold Pass.indexed
  rw [← h.aborted]
  split
  · exact h
  · exact ⟨by rw [h.session], rfl, h.invalid⟩

end Pass

/-- An analysis depends on nothing but the commands of each kind. -/
theorem Script.analyze_rearranged (setting : Setting) (table : SymbolTable)
    (script script' : Script) (h : script.SameCommands script') :
    (∃ b, script.analyze setting table = .error b ∧ script'.analyze setting table = .error b) ∨
    ∃ a a', script.analyze setting table = .ok a ∧ script'.analyze setting table = .ok a' ∧
      a.table = a'.table ∧ a.diagnostics = a'.diagnostics ∧ a.pass.aborted = a'.pass.aborted ∧
      List.Forall₂ (Counterparts script.blocks script'.blocks) a.pass.invalid a'.pass.invalid ∧
      a.script.SameCommands a'.script := by
  have run : InStep (fun a a' : Analysis =>
        Pass.Alike script.blocks script'.blocks a.pass a'.pass ∧ a.script.SameCommands a'.script)
      (script.analyze setting table) (script'.analyze setting table) := by
    refine (Pass.kinds_alike BlockKind.all (matching_of_sameCommands h) ⟨rfl, rfl, .nil⟩).bind ?_
    exact fun r r' _ _ ⟨hm, hp⟩ => .done ⟨hp.indexed, hm.commandsOf_eq⟩
  generalize script.analyze setting table = x at run
  generalize script'.analyze setting table = y at run
  cases run with
  | broken b => exact .inl ⟨b, rfl, rfl⟩
  | @done a a' hr =>
    obtain ⟨hp, hs⟩ := hr
    refine .inr ⟨a, a', rfl, rfl, ?_, ?_, hp.aborted, hp.invalid, hs⟩
    · exact congrArg Session.table hp.session
    · exact congrArg Session.diagnostics hp.session

/-- A dialog before its assembly: a parameter is invalidated, and the one before it, which is not
bound, is evaluated. -/
def dialogFirst : Script :=
  { blocks := [⟨.gui, [.action {} (.invalidate "A"),
        .action {} (.evaluate (.named none "B"))], none⟩,
      ⟨.asm, [.action {} (.invalidate "C")], none⟩] }

/-- The same with the assembly in front, and the dialog in two blocks. -/
def assemblyFirst : Script :=
  { blocks := [⟨.asm, [.action {} (.invalidate "C")], none⟩,
      ⟨.gui, [.action {} (.invalidate "A")], none⟩,
      ⟨.gui, [.action {} (.evaluate (.named none "B"))], none⟩] }

theorem dialogFirst_sameCommands : dialogFirst.SameCommands assemblyFirst := by
  have split : dialogFirst.SameCommands { blocks :=
      [⟨.gui, [.action {} (.invalidate "A")], none⟩,
        ⟨.gui, [.action {} (.evaluate (.named none "B"))], none⟩,
        ⟨.asm, [.action {} (.invalidate "C")], none⟩] } :=
    .of_split [] _ .gui [_] _ rfl rfl
  refine split.trans (.of_blocks fun kind => ?_)
  cases kind <;> rfl

theorem analyze_rearranged_dialog :
    dialogFirst.SameCommands assemblyFirst ∧
    ∃ a a', dialogFirst.analyze {} {} = .ok a ∧ assemblyFirst.analyze {} {} = .ok a' ∧
      a.table = a'.table ∧ a.diagnostics = a'.diagnostics ∧ a.pass.aborted = a'.pass.aborted ∧
      a.pass.invalid = [(0, 1)] ∧ a'.pass.invalid = [(2, 0)] ∧
      List.Forall₂ (Counterparts dialogFirst.blocks assemblyFirst.blocks)
        a.pass.invalid a'.pass.invalid ∧
      a.script.SameCommands a'.script := by
  refine ⟨dialogFirst_sameCommands, ?_⟩
  rcases Script.analyze_rearranged {} {} _ _ dialogFirst_sameCommands with
    ⟨b, hb, _⟩ | ⟨a, a', ha, ha', ht, hd, hab, hi, hs⟩
  · cases hb
  · refine ⟨a, a', ha, ha', ht, hd, hab, ?_, ?_, hi, hs⟩
    · cases ha
      rfl
    · cases ha'
      rfl

end DialogScript
