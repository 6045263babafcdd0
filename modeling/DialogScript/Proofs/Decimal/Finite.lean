import DialogScript.Proofs.Decimal.Exact

/-!
Which numbers have a double. An integer has one unless it is at least half-way from the largest
double to the power of two behind it, and the double next to it is finite. The other way round, the
bits of a double say whether it is a number and whether it is finite, and the integral part of a
finite double always has a double again.
-/

namespace DialogScript

/-- The least magnitude of an integer that is rounded beyond the largest double, a half unit of the
last place behind that double: `2 ^ 1024 - 2 ^ 970`. -/
def Number.tooLarge : Nat := (2 ^ 54 - 1) * 2 ^ 970

theorem Number.lt_tooLarge {n : Nat} (h : n < 2 ^ 54 - 1) : n < tooLarge := by
  rw [tooLarge]
  generalize 970 = k
  exact Nat.lt_of_lt_of_le h (Nat.le_mul_of_pos_right _ (Nat.two_pow_pos k))

theorem Number.tooLarge_le_pow {k : Nat} (h : 309 ≤ k) : tooLarge ≤ 10 ^ k := by
  have powers : ∀ j, 2 ^ (93 * j) ≤ 10 ^ (28 * j) := fun j => by
    rw [Nat.pow_mul, Nat.pow_mul]
    exact Nat.pow_le_pow_left (by decide) j
  -- large exponents are named, so that no power is evaluated
  obtain ⟨j, hj⟩ : ∃ j, j = 11 := ⟨11, rfl⟩
  rw [tooLarge]
  generalize ha : 970 = a
  calc (2 ^ 54 - 1) * 2 ^ a
      ≤ 2 ^ 54 * 2 ^ a := Nat.mul_le_mul_right _ (Nat.sub_le _ _)
    _ = 2 ^ (93 * j + 1) := by rw [← Nat.pow_add, show 54 + a = 93 * j + 1 by omega]
    _ = 2 * 2 ^ (93 * j) := Nat.pow_succ'
    _ ≤ 10 * 10 ^ (28 * j) := Nat.mul_le_mul (by decide) (powers j)
    _ = 10 ^ (28 * j + 1) := Nat.pow_succ'.symm
    _ ≤ 10 ^ k := Nat.pow_le_pow_right (by decide) (by omega)

theorem Number.tooLarge_le_of_length {n k : Nat} (hk : 309 ≤ k)
    (h : k < (Nat.toDigits 10 n).length) : tooLarge ≤ n := by
  have many : 10 ^ k ≤ n := by
    rw [← Nat.not_lt, ← Nat.length_toDigits_le_iff (by decide) (by omega)]
    omega
  exact Nat.le_trans (tooLarge_le_pow hk) many

namespace Decimal

open Float.Model (Format UnpackedFloat)
open Float.Model.UnpackedFloat

/-! ## Integers -/

/-- Rounding down to an odd number takes less than a half. -/
theorem roundHalfEven_le_iff {num half q : Nat} (hh : 0 < half) (odd : q % 2 = 1) :
    roundHalfEven num (2 * half) ≤ q ↔ num < q * (2 * half) + half := by
  have split := Nat.div_add_mod num (2 * half)
  have small : num % (2 * half) < 2 * half := Nat.mod_lt num (by omega)
  rcases Nat.lt_trichotomy (num / (2 * half)) q with hlt | heq | hgt
  · have near := roundHalfEven_eq_or num (2 * half)
    have room : 2 * half * (num / (2 * half) + 1) ≤ 2 * half * q := Nat.mul_le_mul_left _ hlt
    have comm : 2 * half * q = q * (2 * half) := Nat.mul_comm _ _
    have step : 2 * half * (num / (2 * half) + 1) = 2 * half * (num / (2 * half)) + 2 * half :=
      Nat.mul_succ _ _
    omega
  · have comm : 2 * half * q = q * (2 * half) := Nat.mul_comm _ _
    have rest : num = q * (2 * half) + num % (2 * half) := by
      rw [heq] at split
      omega
    unfold roundHalfEven
    dsimp only
    rw [heq]
    split
    · omega
    · split
      · omega
      · split <;> omega
  · have near := roundHalfEven_eq_or num (2 * half)
    have room : 2 * half * (q + 1) ≤ 2 * half * (num / (2 * half)) := Nat.mul_le_mul_left _ hgt
    have comm : 2 * half * q = q * (2 * half) := Nat.mul_comm _ _
    have step : 2 * half * (q + 1) = 2 * half * q + 2 * half := Nat.mul_succ _ _
    omega

/-- The bits of the double next to a natural number stay below those of infinity. -/
theorem bits_lt_infinityBits_iff {a : Nat} (ha : 0 < a) :
    (a.log2 + 1022) * 2 ^ 52 + rounded a < infinityBits ↔ a < Number.tooLarge := by
  rw [show infinityBits = 2047 * 2 ^ 52 from rfl, Number.tooLarge]
  generalize hk : 970 = k
  have lower := rounded_lower ha
  have upper := rounded_upper a
  have below : a.log2 < 53 + k → a < 2 ^ 53 * 2 ^ k := by
    rw [← Nat.pow_add]
    exact (Nat.log2_lt (Nat.ne_of_gt ha)).mp
  have above : 54 + k ≤ a.log2 → 2 ^ 54 * 2 ^ k ≤ a := by
    rw [← Nat.pow_add]
    exact (Nat.le_log2 (Nat.ne_of_gt ha)).mp
  have between : a.log2 = 53 + k → rounded a = roundHalfEven a (2 * 2 ^ k) := by
    intro h
    rw [rounded, show 52 - a.log2 = 0 by omega, show a.log2 - 52 = k + 1 by omega, Nat.pow_zero,
      Nat.mul_one, Nat.pow_succ']
  have bound : roundHalfEven a (2 * 2 ^ k) ≤ 2 ^ 53 - 1 ↔ a < (2 ^ 53 - 1) * (2 * 2 ^ k) + 2 ^ k :=
    roundHalfEven_le_iff (Nat.two_pow_pos k) (by decide)
  rcases Nat.lt_trichotomy a.log2 (53 + k) with hlt | heq | hgt
  · have := below hlt
    omega
  · rw [← between heq] at bound
    omega
  · have := above (by omega)
    omega

/-- A natural number has no double next to it just where it is too large. -/
theorem nearest?_eq_none_iff {a : Nat} : nearest? a 1 = none ↔ Number.tooLarge ≤ a := by
  rcases Nat.eq_zero_or_pos a with rfl | ha
  · have pos : 0 < Number.tooLarge := Number.lt_tooLarge (by decide)
    exact iff_of_false (fun h => by cases h) (Nat.not_le.2 pos)
  · rw [nearest?_one ha, ← Nat.not_lt, ← bits_lt_infinityBits_iff ha]
    split
    · next h => exact iff_of_false (fun h => by cases h) (fun hn => hn h)
    · next h => exact iff_of_true rfl h

theorem isFinite_normal (z : Normal) (s : Sign) : (z.float s).isFinite = true := by
  change ((Float.Model.pack (z.parts s)).unpack).isFinite = true
  rw [z.unpack_pack]
  rfl

/-- The double next to a natural number is finite. -/
theorem isFinite_of_nearest? {a : Nat} {x : Float} (h : nearest? a 1 = some x) :
    x.isFinite = true := by
  rcases Nat.eq_zero_or_pos a with rfl | ha
  · cases h
    rfl
  · obtain ⟨z, rfl, -⟩ := normal_of_nearest? ha h
    exact isFinite_normal z .positive

theorem isFinite_signed {x : Float} (negative : Bool) (h : x.isFinite = true) :
    (signed negative x).isFinite = true := by
  cases negative
  · exact h
  · exact isFinite_neg h

/-! ## Bits -/

section
variable (x : Float)

theorem exponent_toNat : (@unpackExponent Format.binary64 x.toModel.toBits.toBitVec).toNat =
    x.toBits.toNat / twoTo 52 % twoTo 11 := by
  rw [unpackExponent, BitVec.toNat_cast, BitVec.extractLsb_toNat, Nat.shiftRight_eq_div_pow]
  rfl

theorem fraction_toNat : (@unpackMantissa Format.binary64 x.toModel.toBits.toBitVec).toNat =
    x.toBits.toNat % twoTo 52 := by
  rw [unpackMantissa, BitVec.toNat_cast, BitVec.extractLsb_toNat]
  rfl

/-- What the bits of a double say is what the double is. A finite one has a mantissa of fifty-three
bits. -/
theorem ofFloat_kind : match Double.ofFloat x with
    | .nan => x.isNaN = true
    | .infinite _ => x.isInf = true
    | .finite b => x.isFinite = true ∧ b.mantissa < 2 ^ 53 ∧ b.exponent ≤ 971 := by
  have hfield : x.toBits.toNat / twoTo 52 % twoTo 11 < 2048 := Nat.mod_lt _ (by decide)
  have hfraction : x.toBits.toNat % twoTo 52 < 2 ^ 52 := Nat.mod_lt _ (by decide)
  have last : @unpackExponent Format.binary64 x.toModel.toBits.toBitVec = -1#11 ↔
      x.toBits.toNat / twoTo 52 % twoTo 11 = 2047 := by
    rw [← exponent_toNat, ← BitVec.toNat_inj]
    rfl
  have empty : @unpackMantissa Format.binary64 x.toModel.toBits.toBitVec = 0#52 ↔
      x.toBits.toNat % twoTo 52 = 0 := by
    rw [← fraction_toNat, ← BitVec.toNat_inj]
    rfl
  simp only [Float.isNaN, Float.isInf, Float.isFinite, Float.Model.isNaN, Float.Model.isInf,
    Float.Model.isFinite, Float.Model.unpack, UnpackedFloat.unpack, Double.ofFloat, Double.ofBits]
  by_cases h : x.toBits.toNat / twoTo 52 % twoTo 11 = 2047
  · rw [if_pos (last.2 h), if_pos h]
    by_cases hz : x.toBits.toNat % twoTo 52 = 0
    · rw [if_pos (empty.2 hz), if_pos hz]
      rfl
    · rw [if_neg (mt empty.1 hz), if_neg hz]
      rfl
  · rw [if_neg (mt last.1 h), if_neg h]
    by_cases hs : x.toBits.toNat / twoTo 52 % twoTo 11 = 0
    · rw [if_pos hs]
      refine ⟨?_, Nat.lt_trans hfraction (by decide), show (-1074 : Int) ≤ 971 by decide⟩
      split
      · split <;> rfl
      · rfl
    · rw [if_neg hs]
      refine ⟨?_, ?_, ?_⟩
      · split
        · split <;> rfl
        · rfl
      · change x.toBits.toNat % twoTo 52 + 2 ^ 52 < 2 ^ 53
        omega
      · change ((x.toBits.toNat / twoTo 52 % twoTo 11 : Nat) : Int) - 1075 ≤ 971
        omega

/-- A double is one of three things. -/
theorem kind_cases : (x.isNaN = true ∧ x.isInf = false ∧ x.isFinite = false) ∨
    (x.isNaN = false ∧ x.isInf = true ∧ x.isFinite = false) ∨
    (x.isNaN = false ∧ x.isInf = false ∧ x.isFinite = true) := by
  simp only [Float.isNaN, Float.isInf, Float.isFinite, Float.Model.isNaN, Float.Model.isInf,
    Float.Model.isFinite]
  cases x.toModel.unpack with
  | notANumber => exact .inl ⟨rfl, rfl, rfl⟩
  | infinity s => exact .inr (.inl ⟨rfl, rfl, rfl⟩)
  | zero s => exact .inr (.inr ⟨rfl, rfl, rfl⟩)
  | finite s m e h => exact .inr (.inr ⟨rfl, rfl, rfl⟩)

variable {x}

theorem ofFloat_of_isNaN (h : x.isNaN = true) : Double.ofFloat x = .nan := by
  have kind := ofFloat_kind x
  have exclusive := kind_cases x
  cases hx : Double.ofFloat x <;> simp_all

theorem ofFloat_of_isInf (h : x.isInf = true) :
    ∃ negative, Double.ofFloat x = .infinite negative := by
  have kind := ofFloat_kind x
  have exclusive := kind_cases x
  cases hx : Double.ofFloat x <;> simp_all

theorem ofFloat_of_isFinite (h : x.isFinite = true) :
    ∃ b, Double.ofFloat x = .finite b ∧ b.mantissa < 2 ^ 53 ∧ b.exponent ≤ 971 := by
  have kind := ofFloat_kind x
  have exclusive := kind_cases x
  cases hx : Double.ofFloat x <;> simp_all

end

/-! ## Order

A double that is no number is neither above nor below any other. For numbers, one order fails just
where the opposite one holds.
-/

section
variable {x y : Float}

theorem isNumber_of_isNaN (h : x.isNaN = false) : IsNumber x := by
  refine unpack_proper _ fun hc => ?_
  rw [Float.isNaN, Float.Model.isNaN, hc] at h
  cases h

theorem lt_of_not_le (hx : x.isNaN = false) (hy : y.isNaN = false) (h : ¬x ≤ y) : y < x := by
  rw [le_iff (isNumber_of_isNaN hx) (isNumber_of_isNaN hy), Int.not_le] at h
  exact (lt_iff (isNumber_of_isNaN hy) (isNumber_of_isNaN hx)).2 h

theorem le_of_not_lt (hx : x.isNaN = false) (hy : y.isNaN = false) (h : ¬x < y) : y ≤ x := by
  rw [lt_iff (isNumber_of_isNaN hx) (isNumber_of_isNaN hy), Int.not_lt] at h
  exact (le_iff (isNumber_of_isNaN hy) (isNumber_of_isNaN hx)).2 h

end

end Decimal

namespace Number

open Decimal

/-- An integer cannot be widened just where it is too large. -/
theorem toDouble_eq_error_iff {n : Int} {b : Breakdown} :
    toDouble n = .error b ↔ tooLarge ≤ n.natAbs ∧ b = .integerTooLarge := by
  rw [← nearest?_eq_none_iff, toDouble]
  cases nearest? n.natAbs 1 with
  | none => simp [eq_comm]
  | some x => simp

/-- The integral part of a finite double is not too large. -/
theorem natAbs_floorOf_lt {b : Binary} (hm : b.mantissa < 2 ^ 53) (he : b.exponent ≤ 971) :
    (floorOf b).natAbs < tooLarge := by
  have whole : (if b.negative then -(b.mantissa : Int) else b.mantissa).natAbs = b.mantissa := by
    split <;> simp
  rw [floorOf, tooLarge]
  generalize (if b.negative then -(b.mantissa : Int) else b.mantissa) = m at whole ⊢
  generalize hk : 970 = k
  split
  · have room : twoTo b.exponent.toNat ≤ 2 ^ (k + 1) :=
      Nat.pow_le_pow_right (by decide) (by omega)
    rw [Int.natAbs_mul, whole, Int.natAbs_natCast]
    calc b.mantissa * twoTo b.exponent.toNat
        ≤ (2 ^ 53 - 1) * 2 ^ (k + 1) := Nat.mul_le_mul (by omega) room
      _ < (2 ^ 54 - 1) * 2 ^ k := by
        have pos : 0 < 2 ^ k := Nat.two_pow_pos k
        rw [Nat.pow_succ]
        omega
  · calc (m.fdiv (twoTo (-b.exponent).toNat)).natAbs
        ≤ m.natAbs := Int.natAbs_fdiv_le_natAbs _ _
      _ < (2 ^ 54 - 1) * 1 := by omega
      _ ≤ (2 ^ 54 - 1) * 2 ^ k := Nat.mul_le_mul_left _ (Nat.two_pow_pos k)

section
variable {x : Float}

theorem floor_of_isNaN (h : x.isNaN = true) : floor x = .error .undefinedInteger := by
  rw [floor, integral, ofFloat_of_isNaN h]

theorem floor_of_isInf (h : x.isInf = true) : floor x = .error .infiniteInteger := by
  obtain ⟨negative, hx⟩ := ofFloat_of_isInf h
  rw [floor, integral, hx]

/-- The integral part of a finite double is widened to a double again, with either sign. -/
theorem floor_of_isFinite (h : x.isFinite = true) :
    ∃ n y z, floor x = .ok n ∧ toDouble n = .ok y ∧ toDouble (-n) = .ok z := by
  have widened {n : Int} (hn : n.natAbs < tooLarge) : ∃ y, toDouble n = .ok y := by
    cases hy : toDouble n with
    | ok y => exact ⟨y, rfl⟩
    | error b => exact absurd (toDouble_eq_error_iff.1 hy).1 (Nat.not_le.2 hn)
  obtain ⟨b, hx, hm, he⟩ := ofFloat_of_isFinite h
  have bound := natAbs_floorOf_lt hm he
  obtain ⟨y, hy⟩ := widened bound
  obtain ⟨z, hz⟩ := widened (n := -floorOf b) (by rwa [Int.natAbs_neg])
  exact ⟨floorOf b, y, z, by rw [floor, integral, hx], hy, hz⟩

end

end Number

end DialogScript
