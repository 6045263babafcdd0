import DialogScript.Keyed
import DialogScript.Proofs.Typing.Builtins

/-!
Searching without regard to case. The search takes the upper-case forms of both texts and gives a
place in the form of the first one. Characters that become several in upper case push that place
behind the one in the text itself, and what is found may begin or end inside of such a character. So
the place is that of a part with the same upper-case form where the characters up to the end of it
keep their number; elsewhere it is the length of the upper case of what stands before the part, or
of less.
-/

namespace DialogScript

namespace Text

/-! ## Places -/

/-- At a place of a text stands another one. -/
def Stands (needle s : List Char) (i : Nat) : Prop :=
  ∃ before after, s = before ++ needle ++ after ∧ before.length = i

theorem stands_zero_iff {needle s : List Char} : Stands needle s 0 ↔ needle <+: s := by
  constructor
  · rintro ⟨before, after, rfl, hb⟩
    rw [List.eq_nil_of_length_eq_zero hb, List.nil_append]
    exact List.prefix_append needle after
  · rintro ⟨after, rfl⟩
    exact ⟨[], after, rfl, rfl⟩

theorem stands_succ_iff {needle s : List Char} {c : Char} {i : Nat} :
    Stands needle (c :: s) (i + 1) ↔ Stands needle s i := by
  constructor
  · rintro ⟨before, after, hs, hb⟩
    cases before with
    | nil => cases hb
    | cons d before =>
      obtain ⟨rfl, rfl⟩ := List.cons.inj hs
      exact ⟨before, after, rfl, Nat.succ.inj hb⟩
  · rintro ⟨before, after, rfl, rfl⟩
    exact ⟨c :: before, after, rfl, rfl⟩

theorem Stands.le_length {needle s : List Char} {i : Nat} (h : Stands needle s i) :
    i + needle.length ≤ s.length := by
  obtain ⟨before, after, rfl, rfl⟩ := h
  simp only [List.length_append]
  omega

/-- The search gives the first place, if there is one. -/
theorem find?_cases (needle s : List Char) :
    (find? needle s = none ∧ ∀ i, ¬Stands needle s i) ∨
      ∃ i, find? needle s = some i ∧ Stands needle s i ∧ ∀ j < i, ¬Stands needle s j := by
  induction s with
  | nil =>
    cases needle with
    | nil => exact .inr ⟨0, rfl, ⟨[], [], rfl, rfl⟩, fun j hj => absurd hj (Nat.not_lt_zero j)⟩
    | cons c rest =>
      refine .inl ⟨rfl, fun i ⟨before, after, hs, _⟩ => ?_⟩
      simp at hs
  | cons c rest ih =>
    rw [find?]
    split
    · next hp =>
      refine .inr ⟨0, rfl, stands_zero_iff.2 (List.isPrefixOf_iff_prefix.1 hp), ?_⟩
      exact fun j hj => absurd hj (Nat.not_lt_zero j)
    · next hp =>
      have first : ¬Stands needle (c :: rest) 0 :=
        fun h => hp (List.isPrefixOf_iff_prefix.2 (stands_zero_iff.1 h))
      rcases ih with ⟨hf, hn⟩ | ⟨i, hf, hi, hn⟩
      · refine .inl ⟨by rw [hf]; rfl, fun i => ?_⟩
        cases i with
        | zero => exact first
        | succ i => exact fun h => hn i (stands_succ_iff.1 h)
      · refine .inr ⟨i + 1, by rw [hf]; rfl, stands_succ_iff.2 hi, fun j hj => ?_⟩
        cases j with
        | zero => exact first
        | succ j => exact fun h => hn j (by omega) (stands_succ_iff.1 h)

theorem position_cases (needle s : String) :
    (position needle s = -1 ∧ ∀ i, ¬Stands needle.toList s.toList i) ∨
      ∃ i : Nat, position needle s = i ∧ Stands needle.toList s.toList i ∧
        ∀ j < i, ¬Stands needle.toList s.toList j := by
  rw [position]
  rcases find?_cases needle.toList s.toList with ⟨hf, hn⟩ | ⟨i, hf, hi⟩
  · exact .inl ⟨by rw [hf], hn⟩
  · exact .inr ⟨i, by rw [hf], hi⟩

/-! ## Upper case -/

theorem upperChars_append (s t : List Char) : upperChars (s ++ t) = upperChars s ++ upperChars t :=
  List.flatMap_append

theorem toList_upper (s : String) : (upper s).toList = upperChars s.toList :=
  String.toList_ofList

/-- No character vanishes in upper case. -/
theorem upperChar_ne_nil (c : Char) : upperChar c ≠ [] := by
  have listed : ∀ e ∈ upperSpecials, e.2 ≠ [] := by decide
  rw [upperChar]
  split
  · exact List.cons_ne_nil _ _
  · split
    · next codes h =>
      exact fun hn => listed _ (Keyed.mem_of_lookup h) (List.map_eq_nil_iff.1 hn)
    · exact List.cons_ne_nil _ _

theorem length_le_upperChars (s : List Char) : s.length ≤ (upperChars s).length := by
  induction s with
  | nil => exact Nat.le_refl 0
  | cons c rest ih =>
    have some := List.length_pos_iff.2 (upperChar_ne_nil c)
    rw [upperChars, List.flatMap_cons, List.length_append, List.length_cons]
    change (rest.length + 1 ≤ (upperChar c).length + (upperChars rest).length)
    omega

theorem length_upperChars_of_single {s : List Char} (h : ∀ c ∈ s, (upperChar c).length = 1) :
    (upperChars s).length = s.length := by
  induction s with
  | nil => rfl
  | cons c rest ih =>
    obtain ⟨hc, hrest⟩ := List.forall_mem_cons.1 h
    rw [upperChars, List.flatMap_cons, List.length_append, hc, ← upperChars, ih hrest,
      List.length_cons, Nat.add_comm]

theorem length_upperChars_take {s : List Char} {i k : Nat}
    (single : ∀ c ∈ s.take k, (upperChar c).length = 1) (hk : i ≤ k) (hi : i ≤ s.length) :
    (upperChars (s.take i)).length = i := by
  have within : ∀ c ∈ s.take i, (upperChar c).length = 1 :=
    fun c hc => single c (List.take_subset_take_left s hk hc)
  rw [length_upperChars_of_single within, List.length_take, Nat.min_eq_left hi]

/-- In upper case, what comes later stays later. -/
theorem length_upperChars_take_lt {s : List Char} {i j : Nat} (hij : i < j) (hj : j ≤ s.length) :
    (upperChars (s.take i)).length < (upperChars (s.take j)).length := by
  have between : s.take j = s.take i ++ (s.drop i).take (j - i) := by
    rw [← List.take_add, Nat.add_sub_cancel' (Nat.le_of_lt hij)]
  have some := length_le_upperChars ((s.drop i).take (j - i))
  rw [List.length_take, List.length_drop] at some
  rw [between, upperChars_append, List.length_append]
  omega

/-! ## Parts with the same upper case

What stands in the upper case of a text need not come from a part of the text, since it may begin or
end inside of the upper case of one character. Only the other way round a part with the same upper
case is always found there.
-/

/-- At a place of a text begins a part with the same upper case as another text. -/
def Begins (needle s : List Char) (i : Nat) : Prop :=
  ∃ before part after, s = before ++ part ++ after ∧ before.length = i ∧
    upperChars part = upperChars needle

section Begins
variable {needle s : List Char} {i : Nat}

theorem begins_iff : Begins needle s i ↔ i ≤ s.length ∧
    ∃ size ≤ s.length - i, upperChars ((s.drop i).take size) = upperChars needle := by
  constructor
  · rintro ⟨before, part, after, rfl, rfl, hp⟩
    rw [List.append_assoc, List.drop_left]
    simp only [List.length_append]
    refine ⟨Nat.le_add_right _ _, part.length, by omega, ?_⟩
    rw [List.take_left, hp]
  · rintro ⟨hi, size, -, hp⟩
    refine ⟨s.take i, (s.drop i).take size, (s.drop i).drop size, ?_, ?_, hp⟩
    · rw [List.append_assoc, List.take_append_drop, List.take_append_drop]
    · rw [List.length_take, Nat.min_eq_left hi]

instance : Decidable (Begins needle s i) := decidable_of_iff _ begins_iff.symm

theorem Begins.le_length (h : Begins needle s i) : i ≤ s.length := (begins_iff.1 h).1

/-- A part is found in the upper case behind the upper case of what stands before it. -/
theorem Begins.stands (h : Begins needle s i) :
    Stands (upperChars needle) (upperChars s) (upperChars (s.take i)).length := by
  obtain ⟨before, part, after, rfl, rfl, hp⟩ := h
  refine ⟨upperChars before, upperChars after, ?_, ?_⟩
  · rw [upperChars_append, upperChars_append, hp]
  · rw [List.append_assoc, List.take_left]

/-- Among characters that keep their number, what is found in the upper case begins there. -/
theorem begins_append {p rest : List Char}
    (h : Stands (upperChars needle) (upperChars (p ++ rest)) i)
    (single : ∀ c ∈ p, (upperChar c).length = 1) (hp : p.length = i + (upperChars needle).length) :
    Begins needle (p ++ rest) i := by
  obtain ⟨before, after, hs, hi⟩ := h
  have whole : upperChars p = before ++ upperChars needle := by
    rw [upperChars_append] at hs
    refine List.append_inj_left hs ?_
    rw [length_upperChars_of_single single, hp, List.length_append, hi]
  have short : (p.take i).length = i := by
    rw [List.length_take, hp, Nat.min_eq_left (Nat.le_add_right _ _)]
  have front : (upperChars (p.take i)).length = before.length := by
    rw [length_upperChars_of_single fun c hc => single c (List.mem_of_mem_take hc), short, hi]
  have halves : upperChars (p.take i) ++ upperChars (p.drop i) = before ++ upperChars needle := by
    rw [← upperChars_append, List.take_append_drop, whole]
  exact ⟨p.take i, p.drop i, rest, by rw [List.take_append_drop], short,
    List.append_inj_right halves front⟩

/-- Where the characters up to its end keep their number, what is found in the upper case begins
there. -/
theorem begins_of_stands (h : Stands (upperChars needle) (upperChars s) i)
    (single : ∀ c ∈ s.take (i + (upperChars needle).length), (upperChar c).length = 1) :
    Begins needle s i := by
  have long : i + (upperChars needle).length ≤ s.length := by
    refine Nat.not_lt.1 fun hlt => ?_
    rw [List.take_of_length_le (Nat.le_of_lt hlt)] at single
    have := h.le_length
    rw [length_upperChars_of_single single] at this
    omega
  rw [← List.take_append_drop (i + (upperChars needle).length) s] at h ⊢
  exact begins_append h single (by rw [List.length_take, Nat.min_eq_left long])

end Begins

end Text

namespace Builtin

open Text

theorem call_strFind (a b : String) :
    strFind.call [.string a, .string b] = .ok (.integer (position (upper b) (upper a))) :=
  call_string strFind a [.string b]

section Position
variable {a b : String} {i : Nat}

/-- A part with the same upper case is found, and not behind the upper case of what stands before
it. -/
theorem position_of_begins (h : Begins b.toList a.toList i) :
    0 ≤ position (upper b) (upper a) ∧
      position (upper b) (upper a) ≤ (upperChars (a.toList.take i)).length := by
  have stands := h.stands
  rw [← toList_upper, ← toList_upper] at stands
  rcases position_cases (upper b) (upper a) with ⟨-, none⟩ | ⟨k, hk, -, first⟩
  · exact absurd stands (none _)
  · have := Nat.not_lt.1 fun hlt => first _ hlt stands
    omega

/-- Where the characters up to the end of what is found keep their number, the place that is found
is that of a part with the same upper case. -/
theorem begins_of_position (h : position (upper b) (upper a) = i)
    (single : ∀ c ∈ a.toList.take (i + (upperChars b.toList).length), (upperChar c).length = 1) :
    Begins b.toList a.toList i := by
  rcases position_cases (upper b) (upper a) with ⟨absent, -⟩ | ⟨k, hk, stands, -⟩
  · omega
  · obtain rfl : k = i := by omega
    rw [toList_upper, toList_upper] at stands
    exact begins_of_stands stands single

end Position

/-- The search without regard to case gives the first place of the upper case of one text in that of
the other. So it finds something wherever a part has the same upper case, not behind the upper case
of what stands before that part; and if it gives the place behind it, no such part begins earlier.
Where the characters up to the end of what it finds keep their number in upper case, it gives the
first place where a part with the same upper case begins. -/
theorem strFind_begins (a b : String) :
    ∃ r : Int, strFind.call [.string a, .string b] = .ok (.integer r) ∧
      ((r = -1 ∧ ∀ i, ¬Stands (upperChars b.toList) (upperChars a.toList) i) ∨
        ∃ i : Nat, r = i ∧ Stands (upperChars b.toList) (upperChars a.toList) i ∧
          ∀ j < i, ¬Stands (upperChars b.toList) (upperChars a.toList) j) ∧
      (∀ i, Begins b.toList a.toList i →
        0 ≤ r ∧ r ≤ (upperChars (a.toList.take i)).length ∧
        (r = (upperChars (a.toList.take i)).length → ∀ j, Begins b.toList a.toList j → i ≤ j)) ∧
      ∀ i : Nat, r = i →
        (∀ c ∈ a.toList.take (i + (upperChars b.toList).length), (upperChar c).length = 1) →
        Begins b.toList a.toList i ∧ ∀ j < i, ¬Begins b.toList a.toList j := by
  refine ⟨_, call_strFind a b, ?_, fun i hi => ?_, fun i hr single => ?_⟩
  · have found := position_cases (upper b) (upper a)
    rwa [toList_upper, toList_upper] at found
  · obtain ⟨low, high⟩ := position_of_begins hi
    refine ⟨low, high, fun here j hj => Nat.not_lt.1 fun hlt => ?_⟩
    have earlier := (position_of_begins hj).2
    have later := length_upperChars_take_lt hlt hi.le_length
    omega
  · refine ⟨begins_of_position hr single, fun j hj hb => ?_⟩
    -- an earlier part would be found at its own place, since nothing before it grows
    have kept := length_upperChars_take single (by omega) hb.le_length
    have earlier := (position_of_begins hb).2
    omega

theorem strFind_begins_hello :
    Begins "LL".toList "Hello".toList 2 ∧
    strFind.call [.string "Hello", .string "LL"] = .ok (.integer 2) ∧
    (∀ j, Begins "LL".toList "Hello".toList j → 2 ≤ j) ∧
    (∀ c ∈ "Hello".toList.take 4, (upperChar c).length = 1) ∧
    ∀ j < 2, ¬Begins "LL".toList "Hello".toList j := by
  have begins : Begins "LL".toList "Hello".toList 2 := by decide
  have ascii : ("Hello".toList.take 4).all (fun c => (upperChar c).length == 1) = true := by decide
  have single : ∀ c ∈ "Hello".toList.take 4, (upperChar c).length = 1 :=
    fun c hc => eq_of_beq (List.all_eq_true.1 ascii c hc)
  have place : position (upper "LL") (upper "Hello") = 2 := by decide
  have gives : strFind.call [.string "Hello", .string "LL"] = .ok (.integer 2) := by
    rw [call_strFind, place]
  obtain ⟨r, hr, -, hpart, hplain⟩ := strFind_begins "Hello" "LL"
  obtain rfl : (2 : Int) = r := by
    rw [gives] at hr
    cases hr
    rfl
  exact ⟨begins, gives, (hpart 2 begins).2.2 rfl, single, (hplain 2 rfl single).2⟩

/-- A sharp s has two letters in upper case. What stands behind it is found one place too late,
behind the end of the text, and the letter is found inside of it. -/
theorem strFind_begins_sharpS :
    strFind.call [.string "ßa", .string "a"] = .ok (.integer 2) ∧
    Begins "a".toList "ßa".toList 1 ∧ ¬Begins "a".toList "ßa".toList 2 ∧
    strFind.call [.string "ß", .string "S"] = .ok (.integer 0) ∧
    ∀ i, ¬Begins "S".toList "ß".toList i := by
  have behind : position (upper "a") (upper "ßa") = 2 := by decide
  have inside : position (upper "S") (upper "ß") = 0 := by decide
  refine ⟨by rw [call_strFind, behind], by decide, by decide, by rw [call_strFind, inside],
    fun i hi => ?_⟩
  have absent : ∀ i ≤ 1, ¬Begins "S".toList "ß".toList i := by decide
  exact absent i hi.le_length hi

end Builtin

end DialogScript
