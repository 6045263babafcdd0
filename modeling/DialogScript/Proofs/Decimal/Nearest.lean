import DialogScript.Proofs.Decimal.Normal

/-!
The double next to a natural number. Its bits are the place of the leading bit of the number and its
first bits, rounded; so it is a normal double, and where nothing but zeros stands behind the first
bits it has the magnitude of the number itself. An operation on doubles rounds its result in another
way, by shifting bits out of a significand and keeping the last of them and whether any was set
before it; it comes to the same double, however the number is written.
-/

namespace DialogScript

/-- Whether an integer is a double exactly: a number of at most fifty-three bits and zeros behind
it. -/
def Number.IsDouble (n : Int) : Prop := ∃ m k : Nat, m < 2 ^ 53 ∧ n.natAbs = m * 2 ^ k

namespace Decimal

open Float.Model (Format UnpackedFloat totalExponent)
open Float.Model.UnpackedFloat

variable {a : Nat}

/-! ## Rounded quotients -/

theorem roundHalfEven_eq_or (num den : Nat) :
    roundHalfEven num den = num / den ∨ roundHalfEven num den = num / den + 1 := by
  unfold roundHalfEven
  dsimp only
  split
  · exact .inl rfl
  · split
    · exact .inr rfl
    · split
      · exact .inl rfl
      · exact .inr rfl

theorem roundHalfEven_of_dvd {num den : Nat} (hd : 0 < den) (h : den ∣ num) :
    roundHalfEven num den = num / den := by
  unfold roundHalfEven
  rw [Nat.mod_eq_zero_of_dvd h]
  exact if_pos (by omega)

theorem roundHalfEven_le {a q den : Nat} (hd : 0 < den) (h : a ≤ q * den) :
    roundHalfEven a den ≤ q := by
  rcases Nat.lt_or_eq_of_le h with hlt | rfl
  · have below : a / den < q := (Nat.div_lt_iff_lt_mul hd).mpr hlt
    have near := roundHalfEven_eq_or a den
    omega
  · rw [roundHalfEven_of_dvd hd (Nat.dvd_mul_left den q), Nat.mul_div_cancel q hd]

theorem le_roundHalfEven {a q den : Nat} (hd : 0 < den) (h : q * den ≤ a) :
    q ≤ roundHalfEven a den := by
  have above : q ≤ a / den := (Nat.le_div_iff_mul_le hd).mpr h
  have near := roundHalfEven_eq_or a den
  omega

theorem roundHalfEven_mul_right (num den : Nat) {c : Nat} (hc : 0 < c) :
    roundHalfEven (num * c) (den * c) = roundHalfEven num den := by
  unfold roundHalfEven
  dsimp only
  rw [Nat.mul_div_mul_right num den hc, Nat.mul_mod_mul_right, ← Nat.mul_assoc]
  simp only [Nat.mul_lt_mul_right hc]

/-- Equal quotients are rounded alike. -/
theorem roundHalfEven_congr {num den num' den' : Nat} (hd : 0 < den) (hd' : 0 < den')
    (h : num * den' = num' * den) : roundHalfEven num den = roundHalfEven num' den' := calc
  roundHalfEven num den
    = roundHalfEven (num * den') (den * den') := (roundHalfEven_mul_right num den hd').symm
  _ = roundHalfEven (num' * den) (den' * den) := by rw [h, Nat.mul_comm den den']
  _ = roundHalfEven num' den' := roundHalfEven_mul_right num' den' hd

/-! ## The first bits -/

/-- The first fifty-three bits of a natural number, rounded. There may be one bit more. -/
def rounded (a : Nat) : Nat := roundHalfEven (a * 2 ^ (52 - a.log2)) (2 ^ (a.log2 - 52))

theorem two_pow_log2 (a : Nat) :
    2 ^ a.log2 * 2 ^ (52 - a.log2) = 2 ^ (a.log2 - 52) * 2 ^ 52 := by
  rw [← Nat.pow_add, ← Nat.pow_add]
  congr 1
  omega

theorem rounded_lower (ha : 0 < a) : 2 ^ 52 ≤ rounded a := by
  apply le_roundHalfEven (Nat.two_pow_pos _)
  calc 2 ^ 52 * 2 ^ (a.log2 - 52)
      = 2 ^ a.log2 * 2 ^ (52 - a.log2) := by rw [two_pow_log2, Nat.mul_comm]
    _ ≤ a * 2 ^ (52 - a.log2) := Nat.mul_le_mul_right _ (Nat.log2_self_le (Nat.ne_of_gt ha))

theorem rounded_upper (a : Nat) : rounded a ≤ 2 ^ 53 := by
  apply roundHalfEven_le (Nat.two_pow_pos _)
  calc a * 2 ^ (52 - a.log2)
      ≤ 2 ^ (a.log2 + 1) * 2 ^ (52 - a.log2) :=
        Nat.mul_le_mul_right _ (Nat.le_of_lt Nat.lt_log2_self)
    _ = 2 * (2 ^ a.log2 * 2 ^ (52 - a.log2)) := by
        rw [Nat.pow_succ, Nat.mul_comm (2 ^ a.log2) 2, Nat.mul_assoc]
    _ = 2 ^ 53 * 2 ^ (a.log2 - 52) := by
        rw [two_pow_log2]
        omega

/-- Nothing is rounded away from an integer that is a double. -/
theorem rounded_exact (ha : 0 < a) (h : Number.IsDouble a) :
    rounded a * 2 ^ a.log2 = a * 2 ^ 52 := by
  obtain ⟨m, k, hm, he⟩ := h
  rw [Int.natAbs_natCast] at he
  have hpos : 0 < m := by
    rcases Nat.eq_zero_or_pos m with rfl | hpos
    · omega
    · exact hpos
  have hlog : a.log2 = m.log2 + k := by rw [he, log2_mul_two_pow hpos]
  have hshort : m.log2 < 53 := (Nat.log2_lt (Nat.ne_of_gt hpos)).mpr hm
  have hzeros : 2 ^ k ∣ a := ⟨m, by rw [he, Nat.mul_comm]⟩
  have hdvd : 2 ^ (a.log2 - 52) ∣ a * 2 ^ (52 - a.log2) :=
    Nat.dvd_mul_right_of_dvd (Nat.dvd_trans (Nat.pow_dvd_pow 2 (by omega)) hzeros) _
  have kept : rounded a * 2 ^ (a.log2 - 52) = a * 2 ^ (52 - a.log2) := by
    rw [rounded, roundHalfEven_of_dvd (Nat.two_pow_pos _) hdvd, Nat.div_mul_cancel hdvd]
  apply Nat.eq_of_mul_eq_mul_right (Nat.two_pow_pos (52 - a.log2))
  calc rounded a * 2 ^ a.log2 * 2 ^ (52 - a.log2)
      = rounded a * 2 ^ (a.log2 - 52) * 2 ^ 52 := by
        rw [Nat.mul_assoc, two_pow_log2, Nat.mul_assoc]
    _ = a * 2 ^ 52 * 2 ^ (52 - a.log2) := by rw [kept, Nat.mul_right_comm]

/-- A normal double is the one next to a natural number. -/
def Normal.IsNearest (z : Normal) (a : Nat) : Prop :=
  z.significand * 2 ^ z.leading = rounded a * 2 ^ a.log2

namespace Normal

variable {z w : Normal}

theorem IsNearest.unique (hz : z.IsNearest a) (hw : w.IsNearest a) : z = w :=
  eq_of_magnitude (hz.trans hw.symm)

theorem IsNearest.isMagnitude (hz : z.IsNearest a) (ha : 0 < a) (hd : Number.IsDouble a) :
    z.IsMagnitude a :=
  hz.trans (rounded_exact ha hd)

/-- The significand is the rounded bits, without the zeros that a carry has put behind them. -/
theorem IsNearest.rounded_eq (hz : z.IsNearest a) (ha : 0 < a) :
    ∃ k : Nat, z.leading = a.log2 + k ∧ rounded a = z.significand * 2 ^ k := by
  have hpos : 0 < rounded a := Nat.lt_of_lt_of_le (by decide) (rounded_lower ha)
  have hlog := congrArg Nat.log2 hz
  rw [z.log2_scaled, log2_mul_two_pow hpos] at hlog
  have hlong : 52 ≤ (rounded a).log2 := (Nat.le_log2 (Nat.ne_of_gt hpos)).mpr (rounded_lower ha)
  obtain ⟨k, hk⟩ := Nat.exists_eq_add_of_le (show a.log2 ≤ z.leading by omega)
  refine ⟨k, hk, Nat.eq_of_mul_eq_mul_right (Nat.two_pow_pos a.log2) ?_⟩
  rw [← hz, hk, Nat.mul_assoc, ← Nat.pow_add, Nat.add_comm k]

end Normal

/-! ## Widening -/

/-- A number and a power of two, as the quotient that is rounded. -/
theorem scaled_eq (a : Nat) (e : Int) :
    (if 0 ≤ e then (a, 1 * twoTo e.toNat) else (a * twoTo (-e).toNat, 1)) =
      (a * 2 ^ (-e).toNat, 2 ^ e.toNat) := by
  split
  · have hzero : (-e).toNat = 0 := by omega
    rw [hzero, Nat.pow_zero, Nat.mul_one, Nat.one_mul]
    rfl
  · have hzero : e.toNat = 0 := by omega
    rw [hzero, Nat.pow_zero]
    rfl

/-- The bits of the double next to a natural number. -/
theorem nearest?_one (ha : 0 < a) :
    nearest? a 1 =
      if (a.log2 + 1022) * 2 ^ 52 + rounded a < infinityBits then
        some (Float.ofBits ((a.log2 + 1022) * 2 ^ 52 + rounded a).toUInt64)
      else none := by
  have hlog : Nat.log2 1 = 0 := by decide
  have hguess : max ((a.log2 : Int) - (0 : Nat) - 53) (-1074) = a.log2 - 53 := by omega
  -- the guess is always one short
  have large :
      twoTo 53 * 2 ^ (a.log2 - 53 : Int).toNat ≤ a * 2 ^ (-(a.log2 - 53 : Int)).toNat := calc
    twoTo 53 * 2 ^ (a.log2 - 53 : Int).toNat = 2 ^ (53 + (a.log2 - 53 : Int).toNat) :=
      (Nat.pow_add 2 53 _).symm
    _ = 2 ^ a.log2 * 2 ^ (-(a.log2 - 53 : Int)).toNat := by
      rw [← Nat.pow_add]
      congr 1
      omega
    _ ≤ a * 2 ^ (-(a.log2 - 53 : Int)).toNat :=
      Nat.mul_le_mul_right _ (Nat.log2_self_le (Nat.ne_of_gt ha))
  have hnum : (-(a.log2 - 53 + 1 : Int)).toNat = 52 - a.log2 := by omega
  have hden : (a.log2 - 53 + 1 : Int).toNat = a.log2 - 52 := by omega
  have hplace : (a.log2 - 53 + 1 + 1074 : Int).toNat = a.log2 + 1022 := by omega
  simp only [nearest?, if_neg (Nat.ne_of_gt ha), hlog, hguess, scaled_eq, if_pos large]
  rw [hnum, hden, hplace]
  rfl

/-- The double next to a natural number is normal. -/
theorem normal_of_nearest? {x : Float} (ha : 0 < a) (h : nearest? a 1 = some x) :
    ∃ z : Normal, x = z.float .positive ∧ z.IsNearest a := by
  have lower := rounded_lower ha
  have upper := rounded_upper a
  rw [nearest?_one ha] at h
  split at h
  · next hfinite =>
    cases h
    change _ < 2047 * 2 ^ 52 at hfinite
    by_cases hcarry : rounded a < 2 ^ 53
    · let z : Normal := ⟨rounded a, a.log2, lower, hcarry, by omega⟩
      exact ⟨z, z.ofBits_toUInt64, rfl⟩
    · -- rounding up has carried: one bit more, and all of them zero but the first
      have carried : rounded a = 2 ^ 53 := by omega
      let z : Normal := ⟨2 ^ 52, a.log2 + 1, by omega, by omega, by omega⟩
      refine ⟨z, ?_, ?_⟩
      · have bits : (a.log2 + 1022) * 2 ^ 52 + rounded a =
            (a.log2 + 1 + 1022) * 2 ^ 52 + 2 ^ 52 := by omega
        rw [bits]
        exact z.ofBits_toUInt64
      · change 2 ^ 52 * 2 ^ (a.log2 + 1) = rounded a * 2 ^ a.log2
        rw [carried, Nat.pow_succ]
        omega
  · cases h

/-! ## Shifted significands -/

/-- Shifted to the right, a significand keeps the last bit that it loses, and whether any bit before
that was set. -/
theorem shift_succ (m k : Nat) :
    (⟨m, false, false⟩ : ExtendedMantissa) >>> (k + 1) =
      ⟨m / 2 ^ (k + 1), m / 2 ^ k % 2 != 0, m % 2 ^ k != 0⟩ := by
  induction k with
  | zero =>
    change (⟨m / 2, m % 2 != 0, false⟩ : ExtendedMantissa) = _
    simp [Nat.mod_one]
  | succ k ih =>
    have lost : (m / 2 ^ k % 2 != 0 || m % 2 ^ k != 0) = (m % 2 ^ (k + 1) != 0) := by
      rw [Nat.mod_pow_succ]
      rcases Nat.mod_two_eq_zero_or_one (m / 2 ^ k) with hb | hb <;> simp [hb]
    calc (⟨m, false, false⟩ : ExtendedMantissa) >>> (k + 1 + 1)
        = ((⟨m, false, false⟩ : ExtendedMantissa) >>> (k + 1)).shiftRightOne := rfl
      _ = ⟨m / 2 ^ (k + 1) / 2, m / 2 ^ (k + 1) % 2 != 0, m % 2 ^ (k + 1) != 0⟩ := by
        rw [ih, ← lost]
        rfl
      _ = _ := by rw [Nat.div_div_eq_div_mul, ← Nat.pow_succ]

/-- A significand is rounded by the bits that it has lost: below a half, a half, or above. -/
theorem roundedMantissa_eq (q : Nat) {b rest half : Nat} (hb : b = 0 ∨ b = 1) (hr : rest < half) :
    (⟨q, b != 0, rest != 0⟩ : ExtendedMantissa).roundedMantissa =
      if 2 * (rest + half * b) < half * 2 then q
      else if half * 2 < 2 * (rest + half * b) then q + 1
      else if q % 2 = 0 then q else q + 1 := by
  rcases hb with rfl | rfl
  · -- below a half, whether or not anything is lost
    rw [if_pos (by omega)]
    cases rest <;> rfl
  · rw [if_neg (by omega)]
    cases rest with
    | zero =>
      rw [if_neg (by omega)]
      change q + q % 2 = _
      split <;> omega
    | succ n =>
      rw [if_pos (by omega)]
      rfl

/-- A shifted significand is rounded as the quotient that it is. -/
theorem roundedMantissa_shift (m k : Nat) :
    ((⟨m, false, false⟩ : ExtendedMantissa) >>> k).roundedMantissa = roundHalfEven m (2 ^ k) := by
  cases k with
  | zero =>
    rw [Nat.pow_zero, roundHalfEven_of_dvd Nat.one_pos (Nat.one_dvd m), Nat.div_one]
    rfl
  | succ k =>
    have hrest : m % 2 ^ k < 2 ^ k := Nat.mod_lt m (Nat.two_pow_pos k)
    rw [shift_succ, roundHalfEven, Nat.mod_pow_succ, Nat.pow_succ]
    exact roundedMantissa_eq _ (Nat.mod_two_eq_zero_or_one _) hrest

/-- Zeros that are shifted out leave no trace. -/
theorem shift_scaled (m k : Nat) :
    (⟨m * 2 ^ k, false, false⟩ : ExtendedMantissa) >>> k = ⟨m, false, false⟩ := by
  cases k with
  | zero => rw [Nat.pow_zero, Nat.mul_one]; rfl
  | succ k =>
    have hpos : 0 < 2 ^ k := Nat.two_pow_pos k
    have twice : m * 2 ^ (k + 1) = m * 2 * 2 ^ k := by
      rw [Nat.pow_succ, Nat.mul_comm (2 ^ k), Nat.mul_assoc]
    rw [shift_succ, Nat.mul_div_cancel m (Nat.two_pow_pos (k + 1)), twice,
      Nat.mul_div_cancel (m * 2) hpos, Nat.mul_mod_left, Nat.mul_mod_left]
    rfl

/-! ## Rounding to a double -/

/-- The exponent that rounding aims at leaves fifty-three bits. -/
theorem targetExponent_eq {m : Nat} {e : Int} {l : Nat} (h : m.log2 + e = l) :
    Format.binary64.targetExponent (totalExponent m e) = l - 52 := by
  simp only [Format.targetExponent, totalExponent, Format.mantissaBits, Format.minExponent]
  omega

theorem shiftToTarget_eq {m k : Nat} (l : Nat) (h : m.log2 = 52 + k) :
    shiftToTargetExponent Format.binary64 m (l - 52 - k) .exact =
      ((⟨m, false, false⟩ : ExtendedMantissa) >>> k, (l - 52 : Int)) := by
  have hk : ((l - 52 : Int) - (l - 52 - k)).toNat = k := by omega
  have target := targetExponent_eq (show m.log2 + (l - 52 - k : Int) = l by omega)
  simp only [shiftToTargetExponent, target, shiftToExponent, hk,
    ExtendedMantissa.ofMantissaAndAccuracy]
  congr 1
  omega

theorem log2_eq_of_mul {m j k : Nat} (ha : 0 < a) (h : m * 2 ^ j = a * 2 ^ k) :
    m.log2 + j = a.log2 + k := by
  have hm : 0 < m := by
    apply Nat.pos_of_mul_pos_right (b := 2 ^ j)
    rw [h]
    exact Nat.mul_pos ha (Nat.two_pow_pos k)
  rw [← log2_mul_two_pow hm, h, log2_mul_two_pow ha]

namespace Normal.IsNearest

variable {z : Normal}

/-- A number that is written with at least as many bits as a significand has is rounded to the
double next to it. -/
theorem roundWithAccuracy_eq (hz : z.IsNearest a) (ha : 0 < a) (s : Sign) {m k : Nat}
    (h : m * 2 ^ a.log2 = a * 2 ^ (52 + k)) :
    roundWithAccuracy Format.binary64 s m (a.log2 - 52 - k) .exact = z.parts s := by
  have hlog := log2_eq_of_mul ha h
  have bits : roundHalfEven m (2 ^ k) = rounded a := by
    apply roundHalfEven_congr (Nat.two_pow_pos _) (Nat.two_pow_pos _)
    apply Nat.eq_of_mul_eq_mul_right (Nat.two_pow_pos a.log2)
    calc m * 2 ^ (a.log2 - 52) * 2 ^ a.log2
        = a * 2 ^ (52 + k + (a.log2 - 52)) := by
          rw [Nat.mul_right_comm, h, Nat.mul_assoc, ← Nat.pow_add]
      _ = a * 2 ^ (52 - a.log2) * 2 ^ k * 2 ^ a.log2 := by
          rw [Nat.mul_assoc, Nat.mul_assoc, ← Nat.pow_add, ← Nat.pow_add]
          congr 2
          omega
  obtain ⟨c, hc, hr⟩ := hz.rounded_eq ha
  have once := shiftToTarget_eq a.log2 (show m.log2 = 52 + k by omega)
  have again := shiftToTarget_eq z.leading (z.log2_scaled c)
  rw [shift_scaled, show (z.leading - 52 - c : Int) = a.log2 - 52 by omega] at again
  simp only [roundWithAccuracy, once, roundedMantissa_shift, bits, hr, again,
    dif_neg (Nat.ne_of_gt z.pos), parts]

/-- A number is rounded to the double next to it, however it is written. -/
theorem round_eq (hz : z.IsNearest a) (ha : 0 < a) (s : Sign) {m j : Nat}
    (h : m * 2 ^ j = a * 2 ^ 52) :
    UnpackedFloat.round Format.binary64 s m (j - 52) = z.parts s := by
  have hlog := log2_eq_of_mul ha h
  -- a short significand is written with more bits before it is rounded
  have longer : m * 2 ^ (j - a.log2) * 2 ^ a.log2 = a * 2 ^ (52 + (a.log2 - j)) := calc
    m * 2 ^ (j - a.log2) * 2 ^ a.log2 = m * 2 ^ j * 2 ^ (a.log2 - j) := by
      rw [Nat.mul_assoc, Nat.mul_assoc, ← Nat.pow_add, ← Nat.pow_add]
      congr 2
      omega
    _ = a * 2 ^ (52 + (a.log2 - j)) := by rw [h, Nat.mul_assoc, ← Nat.pow_add]
  have hshift : ((j - 52 : Int) - (a.log2 - 52)).toNat = j - a.log2 := by omega
  have he : (j - 52 : Int) - (j - a.log2 : Nat) = a.log2 - 52 - (a.log2 - j : Nat) := by omega
  have target := targetExponent_eq (show m.log2 + (j - 52 : Int) = a.log2 by omega)
  simp only [UnpackedFloat.round, target, decreaseExponent, hshift, Nat.shiftLeft_eq, he]
  exact hz.roundWithAccuracy_eq ha s longer

end Normal.IsNearest

end Decimal

end DialogScript
