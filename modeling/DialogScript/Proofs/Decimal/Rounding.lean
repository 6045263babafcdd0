import DialogScript.Proofs.Decimal.Exact

/-!
Sums and differences of doubles. The exact sum of two finite doubles is a whole number of units, and
the double that is computed is that number, rounded to fifty-three bits. Rounding may reach a
double, but it never crosses one: what lies below a double is not rounded to something above it. So
a comparison of a computed sum with a double is right, unless it is an equality that was not there.
-/

namespace DialogScript.Decimal

open Float.Model (Format UnpackedFloat totalExponent)
open Float.Model.UnpackedFloat

/-! ## Rounded numbers of units -/

variable {a b : Nat}

/-- A number of units, rounded to fifty-three bits. -/
def roundNat (a : Nat) : Nat := roundHalfEven a (2 ^ (a.log2 - 52)) * 2 ^ (a.log2 - 52)

theorem roundNat_short (h : a.log2 ≤ 52) : roundNat a = a := by
  rw [roundNat, Nat.sub_eq_zero_of_le h, Nat.pow_zero, roundHalfEven_of_dvd Nat.one_pos
    (Nat.one_dvd a), Nat.div_one, Nat.mul_one]

theorem two_pow_le_of_long (h : 52 < a.log2) : 2 ^ 52 * 2 ^ (a.log2 - 52) ≤ a := by
  rw [← Nat.pow_add, show 52 + (a.log2 - 52) = a.log2 by omega]
  exact Nat.log2_self_le (by rintro rfl; simp at h)

theorem le_two_pow_log2 (a : Nat) : a ≤ 2 ^ 53 * 2 ^ (a.log2 - 52) := by
  rw [← Nat.pow_add]
  exact Nat.le_of_lt (Nat.lt_of_lt_of_le Nat.lt_log2_self
    (Nat.pow_le_pow_right (by decide) (by omega)))

/-- The significand of a rounded number has fifty-three bits, or it is the next power of two. -/
theorem roundHalfEven_upper (a : Nat) : roundHalfEven a (2 ^ (a.log2 - 52)) ≤ 2 ^ 53 :=
  roundHalfEven_le (Nat.two_pow_pos _) (le_two_pow_log2 a)

theorem roundHalfEven_lower (h : 52 < a.log2) :
    2 ^ 52 ≤ roundHalfEven a (2 ^ (a.log2 - 52)) :=
  le_roundHalfEven (Nat.two_pow_pos _) (two_pow_le_of_long h)

theorem roundHalfEven_pos (ha : 0 < a) : 0 < roundHalfEven a (2 ^ (a.log2 - 52)) := by
  refine le_roundHalfEven (q := 1) (Nat.two_pow_pos _) ?_
  calc 1 * 2 ^ (a.log2 - 52) = 2 ^ (a.log2 - 52) := Nat.one_mul _
    _ ≤ 2 ^ a.log2 := Nat.pow_le_pow_right (by decide) (Nat.sub_le _ _)
    _ ≤ a := Nat.log2_self_le (Nat.ne_of_gt ha)

/-- A number below a double is not rounded to one above it. -/
theorem roundNat_le (hb : Number.IsDouble b) (h : a ≤ b) : roundNat a ≤ b := by
  obtain ⟨m, j, hm, he⟩ := hb
  rw [Int.natAbs_natCast] at he
  rcases Nat.lt_or_ge 52 a.log2 with hlong | hshort
  · have place : a.log2 - 52 ≤ j := by
      have : 2 ^ (52 + (a.log2 - 52)) < 2 ^ (53 + j) := calc
        2 ^ (52 + (a.log2 - 52)) = 2 ^ 52 * 2 ^ (a.log2 - 52) := Nat.pow_add 2 52 _
        _ ≤ a := two_pow_le_of_long hlong
        _ ≤ m * 2 ^ j := he ▸ h
        _ < 2 ^ 53 * 2 ^ j := Nat.mul_lt_mul_of_pos_right hm (Nat.two_pow_pos j)
        _ = 2 ^ (53 + j) := (Nat.pow_add 2 53 j).symm
      have := (Nat.pow_lt_pow_iff_right (by decide)).mp this
      omega
    have whole : m * 2 ^ (j - (a.log2 - 52)) * 2 ^ (a.log2 - 52) = b := by
      rw [Nat.mul_assoc, ← Nat.pow_add, Nat.sub_add_cancel place, he]
    calc roundNat a
        ≤ m * 2 ^ (j - (a.log2 - 52)) * 2 ^ (a.log2 - 52) := by
          apply Nat.mul_le_mul_right
          exact roundHalfEven_le (Nat.two_pow_pos _) (whole ▸ h)
      _ = b := whole
  · rw [roundNat_short hshort]
    exact h

/-- A number above a double is not rounded to one below it. -/
theorem le_roundNat (hb : Number.IsDouble b) (h : b ≤ a) : b ≤ roundNat a := by
  obtain ⟨m, j, hm, he⟩ := hb
  rw [Int.natAbs_natCast] at he
  rcases Nat.lt_or_ge 52 a.log2 with hlong | hshort
  · rcases Nat.lt_or_ge j (a.log2 - 52) with hlow | place
    · -- the double ends before the bits that are rounded begin
      calc b = m * 2 ^ j := he
        _ ≤ 2 ^ 53 * 2 ^ j := Nat.mul_le_mul_right _ (Nat.le_of_lt hm)
        _ = 2 ^ (53 + j) := (Nat.pow_add 2 53 j).symm
        _ ≤ 2 ^ (52 + (a.log2 - 52)) := Nat.pow_le_pow_right (by decide) (by omega)
        _ = 2 ^ 52 * 2 ^ (a.log2 - 52) := Nat.pow_add 2 52 _
        _ ≤ roundNat a := Nat.mul_le_mul_right _ (roundHalfEven_lower hlong)
    · have whole : m * 2 ^ (j - (a.log2 - 52)) * 2 ^ (a.log2 - 52) = b := by
        rw [Nat.mul_assoc, ← Nat.pow_add, Nat.sub_add_cancel place, he]
      calc b = m * 2 ^ (j - (a.log2 - 52)) * 2 ^ (a.log2 - 52) := whole.symm
        _ ≤ roundNat a := by
          apply Nat.mul_le_mul_right
          exact le_roundHalfEven (Nat.two_pow_pos _) (whole ▸ h)
  · rw [roundNat_short hshort]
    exact h

/-- A positive or negative number of units, rounded; infinity where that is too large. -/
def roundUnits (z : Int) : Int := z.sign * (min (roundNat z.natAbs) overflow : Nat)

theorem roundUnits_zero : roundUnits 0 = 0 := by
  rw [roundUnits, Int.sign_zero, Int.zero_mul]

theorem roundUnits_neg (z : Int) : roundUnits (-z) = -roundUnits z := by
  rw [roundUnits, roundUnits, Int.sign_neg, Int.natAbs_neg, Int.neg_mul]

theorem roundUnits_sub_comm (a b : Int) : roundUnits (b - a) = -roundUnits (a - b) := by
  rw [← roundUnits_neg, Int.neg_sub]

theorem roundUnits_apply (s : Sign) (ha : 0 < a) :
    roundUnits (s.apply a) = s.apply (min (roundNat a) overflow : Nat) := by
  rw [roundUnits, Sign.natAbs_apply]
  cases s
  · rw [Sign.apply, Sign.apply, Int.sign_neg, Int.sign_eq_one_of_pos (by omega), Int.neg_mul,
      Int.one_mul]
  · rw [Sign.apply, Sign.apply, Int.sign_eq_one_of_pos (by omega), Int.one_mul]

/-- A number of units is that of a finite double. -/
structure Representable (d : Int) : Prop where
  double : Number.IsDouble d
  below : d.natAbs < overflow

namespace Representable

variable {z d : Int}

theorem neg (hd : Representable d) : Representable (-d) where
  double := by
    rw [Number.IsDouble, Int.natAbs_neg]
    exact hd.double
  below := by
    rw [Int.natAbs_neg]
    exact hd.below

/-- A number below a finite double is not rounded to one above it. -/
theorem roundUnits_le (hd : Representable d) (h : z ≤ d) : roundUnits z ≤ d := by
  have hd' : Number.IsDouble d.natAbs := by
    rw [Number.IsDouble, Int.natAbs_natCast]
    exact hd.double
  have hf := hd.below
  rcases Int.lt_trichotomy z 0 with hz | rfl | hz
  · rw [roundUnits, Int.sign_eq_neg_one_of_neg hz]
    rcases Int.lt_or_le d 0 with hneg | hpos
    · have outward : d.natAbs ≤ roundNat z.natAbs := le_roundNat hd' (by omega)
      omega
    · omega
  · rw [roundUnits_zero]
    exact h
  · have inward : roundNat z.natAbs ≤ d.natAbs := roundNat_le hd' (by omega)
    rw [roundUnits, Int.sign_eq_one_of_pos hz]
    omega

theorem le_roundUnits (hd : Representable d) (h : d ≤ z) : d ≤ roundUnits z := by
  have mirrored : roundUnits (-z) ≤ -d := hd.neg.roundUnits_le (by omega)
  rw [roundUnits_neg] at mirrored
  omega

/-- A finite double is not rounded. -/
theorem roundUnits_eq (hd : Representable d) : roundUnits d = d :=
  Int.le_antisymm (hd.roundUnits_le (Int.le_refl d)) (hd.le_roundUnits (Int.le_refl d))

end Representable

/-! ## Rounding to a double -/

/-- The lowest place that a significand is shifted to. -/
theorem targetExponent_units (m d : Nat) :
    Format.binary64.targetExponent (totalExponent m (d - 1074)) =
      (m.log2 + d - 52 : Nat) - 1074 := by
  simp only [Format.targetExponent, totalExponent, Format.mantissaBits, Format.minExponent]
  omega

theorem shiftToTarget_units {m d k : Nat} (h : max d (m.log2 + d - 52) = d + k) :
    shiftToTargetExponent Format.binary64 m (d - 1074) .exact =
      ((⟨m, false, false⟩ : ExtendedMantissa) >>> k, ((d + k : Nat) - 1074 : Int)) := by
  have hk : (((m.log2 + d - 52 : Nat) - 1074 : Int) - (d - 1074)).toNat = k := by omega
  simp only [shiftToTargetExponent, targetExponent_units, shiftToExponent, hk,
    ExtendedMantissa.ofMantissaAndAccuracy]
  congr 1
  omega

/-- A significand of at most fifty-three bits stands where it is. The next power of two is shifted
once, and nothing is lost. -/
theorem shiftToTarget_carry {r k : Nat} (hr : 0 < r) (upper : r ≤ 2 ^ 53)
    (lead : 2 ^ 52 ≤ r ∨ k = 0) :
    ∃ x : Magnitude, x.units = r * 2 ^ k ∧
      shiftToTargetExponent Format.binary64 r (k - 1074) .exact =
        (⟨x.significand, false, false⟩, (x.place - 1074 : Int)) := by
  rcases Nat.lt_or_eq_of_le upper with hlt | rfl
  · have hlog : r.log2 < 53 := (Nat.log2_lt (Nat.ne_of_gt hr)).mpr hlt
    exact ⟨⟨r, k, hr, hlt, lead⟩, rfl, shiftToTarget_units (k := 0) (by omega)⟩
  · have hlog : (2 ^ 53 : Nat).log2 = 53 := Nat.log2_two_pow
    refine ⟨⟨2 ^ 52, k + 1, by decide, by decide, .inl (by decide)⟩, ?_,
      shiftToTarget_units (k := 1) (by omega)⟩
    change 2 ^ 52 * 2 ^ (k + 1) = 2 ^ 53 * 2 ^ k
    rw [Nat.pow_succ]
    omega

/-- A significand that is too short for its place is written with more bits, and then shifted to the
place where rounding aims. -/
theorem shiftToTarget_written {m d k : Nat} (hm : 0 < m) (hk : m.log2 + d - 52 = k) :
    shiftToTargetExponent Format.binary64 (m * 2 ^ (d - k)) ((d - (d - k) : Nat) - 1074) .exact =
      ((⟨m * 2 ^ (d - k), false, false⟩ : ExtendedMantissa) >>> (k - d), (k - 1074 : Int)) := by
  have hlog : (m * 2 ^ (d - k)).log2 = m.log2 + (d - k) := log2_mul_two_pow hm _
  have shifted := shiftToTarget_units (m := m * 2 ^ (d - k)) (d := d - (d - k)) (k := k - d)
    (by omega)
  rwa [show d - (d - k) + (k - d) = k by omega] at shifted

/-- It is rounded as it was before it was written so. -/
theorem roundHalfEven_written (m d k : Nat) :
    roundHalfEven (m * 2 ^ (d - k)) (2 ^ (k - d)) = roundHalfEven (m * 2 ^ d) (2 ^ k) := by
  apply roundHalfEven_congr (Nat.two_pow_pos _) (Nat.two_pow_pos _)
  rw [Nat.mul_assoc, Nat.mul_assoc, ← Nat.pow_add, ← Nat.pow_add]
  congr 2
  omega

/-- A magnitude is rounded to fifty-three bits, however it is written. -/
theorem round_units (s : Sign) {m : Nat} (hm : 0 < m) (d : Nat) :
    ∃ x : Magnitude, x.units = roundNat (m * 2 ^ d) ∧
      UnpackedFloat.round Format.binary64 s m (d - 1074) = x.parts s := by
  have hlog : (m * 2 ^ d).log2 = m.log2 + d := log2_mul_two_pow hm d
  obtain ⟨k, hk⟩ : ∃ k, (m * 2 ^ d).log2 - 52 = k := ⟨_, rfl⟩
  have positive := roundHalfEven_pos (Nat.mul_pos hm (Nat.two_pow_pos d))
  have upper := roundHalfEven_upper (m * 2 ^ d)
  have lead : 2 ^ 52 ≤ roundHalfEven (m * 2 ^ d) (2 ^ ((m * 2 ^ d).log2 - 52)) ∨ k = 0 := by
    rcases Nat.lt_or_ge 52 (m * 2 ^ d).log2 with hlong | hshort
    · exact .inl (roundHalfEven_lower hlong)
    · exact .inr (by omega)
  rw [hk] at positive upper lead
  obtain ⟨x, hx, again⟩ := shiftToTarget_carry positive upper lead
  have htarget : m.log2 + d - 52 = k := by omega
  have once := shiftToTarget_written hm htarget
  have hlonger : ((d - 1074 : Int) - (k - 1074)).toNat = d - k := by omega
  have he : (d - 1074 : Int) - (d - k : Nat) = (d - (d - k) : Nat) - 1074 := by omega
  refine ⟨x, ?_, ?_⟩
  · rw [hx, roundNat, hk]
  · simp only [UnpackedFloat.round, targetExponent_units, htarget, decreaseExponent, hlonger,
      Nat.shiftLeft_eq, he, roundWithAccuracy, once, roundedMantissa_shift, roundHalfEven_written,
      again, dif_neg (Nat.ne_of_gt x.pos), Magnitude.parts]

/-- A double with too many units is infinity. -/
theorem units_pack_parts (x : Magnitude) (s : Sign) :
    IsNumber (.ofModel (.pack (x.parts s))) ∧
      units (.ofModel (.pack (x.parts s))) = s.apply (min x.units overflow : Nat) := by
  rcases Nat.lt_or_ge highest x.place with hlarge | hfinite
  · have infinite : (Float.Model.pack (x.parts s)).unpack = .infinity s :=
      x.unpack_overflow s hlarge
    have above : overflow ≤ x.units := by
      rw [← Nat.not_lt, x.units_lt_overflow]
      omega
    rw [Nat.min_eq_right above]
    refine ⟨?_, congrArg unitsOf infinite⟩
    rw [IsNumber, infinite]
    exact .infinity s
  · have below : x.units < overflow := x.units_lt_overflow.mpr hfinite
    rw [Nat.min_eq_left (Nat.le_of_lt below)]
    exact ⟨isNumber_pack (.finite s hfinite),
      (units_pack (.finite s hfinite)).trans (unitsOf_parts x s)⟩

/-- A number of units, with the sign that it has. -/
theorem exists_sign (z : Int) : z = 0 ∨ ∃ s : Sign, ∃ a : Nat, 0 < a ∧ z = s.apply a := by
  rcases Int.lt_trichotomy z 0 with hz | hz | hz
  · exact .inr ⟨.negative, z.natAbs, by omega, by simp only [Sign.apply]; omega⟩
  · exact .inl hz
  · exact .inr ⟨.positive, z.natAbs, by omega, by simp only [Sign.apply]; omega⟩

/-- An exact result is rounded to a double. -/
theorem units_normalize (z : Int) (d : Nat) :
    IsNumber (.ofModel (.pack (UnpackedFloat.normalize Format.binary64 z (d - 1074) .positive))) ∧
      units (.ofModel (.pack (UnpackedFloat.normalize Format.binary64 z (d - 1074) .positive))) =
        roundUnits (z * 2 ^ d) := by
  rcases exists_sign z with rfl | ⟨s, m, hm, rfl⟩
  · rw [Int.zero_mul, roundUnits_zero]
    exact ⟨isNumber_pack (.zero .positive), units_pack (.zero .positive)⟩
  · obtain ⟨x, hx, rounded⟩ := round_units s hm d
    have exactly : s.apply m * 2 ^ d = s.apply ((m * 2 ^ d : Nat) : Int) := by
      rw [Sign.apply_mul_right]
      exact congrArg s.apply (by exact_mod_cast rfl)
    rw [Widened.normalize_apply s .positive hm, rounded, exactly,
      roundUnits_apply s (Nat.mul_pos hm (Nat.two_pow_pos d)), ← hx]
    exact units_pack_parts x s

/-! ## Sums and differences -/

variable {x y : Float}

theorem representable_units (hx : x.isFinite = true) : Representable (units x) := by
  rcases finite_cases hx with ⟨s, hs⟩ | ⟨s, m, hm, hs⟩
  · rw [units, hs]
    exact ⟨⟨0, 0, by decide, rfl⟩, overflow_pos⟩
  · rw [units, hs, unitsOf_parts]
    refine ⟨⟨m.significand, m.place, m.upper, Sign.natAbs_apply s m.units⟩, ?_⟩
    rw [Sign.natAbs_apply]
    exact m.units_lt_overflow.mpr hm

/-- A significand written at a lower place. -/
theorem decreaseExponent_units (s : Sign) (x : Magnitude) {d : Nat} (hd : d ≤ x.place) :
    s.apply ((decreaseExponent x.significand (x.place - 1074) (d - 1074)).1 : Int) * 2 ^ d =
      s.apply x.units := by
  have hshift : ((x.place - 1074 : Int) - (d - 1074)).toNat = x.place - d := by omega
  have same : x.significand * 2 ^ (x.place - d) * 2 ^ d = x.units := by
    rw [Nat.mul_assoc, ← Nat.pow_add, Nat.sub_add_cancel hd, Magnitude.units]
  simp only [decreaseExponent, hshift, Nat.shiftLeft_eq]
  rw [Sign.apply_mul_right]
  exact congrArg s.apply (by exact_mod_cast same)

/-- The sum of two finite doubles is their exact sum, rounded. -/
theorem add_units (hx : x.isFinite = true) (hy : y.isFinite = true) :
    IsNumber (x + y) ∧ units (x + y) = roundUnits (units x + units y) := by
  have sum : x + y = .ofModel (.pack (UnpackedFloat.add Format.binary64 x.toModel.unpack
    y.toModel.unpack)) := rfl
  have left := isNumber_of_isFinite hx
  have right := isNumber_of_isFinite hy
  rcases finite_cases hx with ⟨s, hs⟩ | ⟨s, m, hm, hs⟩
  · have none : units x = 0 := congrArg unitsOf hs
    rw [none, Int.zero_add, (representable_units hy).roundUnits_eq, sum, hs]
    rcases finite_cases hy with ⟨t, ht⟩ | ⟨t, n, hn, ht⟩
    · have none' : units y = 0 := congrArg unitsOf ht
      rw [ht, none']
      cases s <;> cases t <;> exact ⟨isNumber_pack (.zero _), units_pack (.zero _)⟩
    · have kept : UnpackedFloat.add Format.binary64 (.zero s) (n.parts t) = n.parts t := rfl
      rw [ht, kept, ← ht]
      exact ⟨isNumber_pack right, units_pack right⟩
  · rcases finite_cases hy with ⟨t, ht⟩ | ⟨t, n, hn, ht⟩
    · have none : units y = 0 := congrArg unitsOf ht
      have kept : UnpackedFloat.add Format.binary64 (m.parts s) (.zero t) = m.parts s := rfl
      rw [none, Int.add_zero, (representable_units hx).roundUnits_eq, sum, hs, ht, kept, ← hs]
      exact ⟨isNumber_pack left, units_pack left⟩
    · have hmin : min (m.place - 1074 : Int) (n.place - 1074) =
        (min m.place n.place : Nat) - 1074 := by omega
      have exactly : units x + units y = (s.apply (decreaseExponent m.significand (m.place - 1074)
            ((min m.place n.place : Nat) - 1074)).1 +
          t.apply (decreaseExponent n.significand (n.place - 1074)
            ((min m.place n.place : Nat) - 1074)).1) * 2 ^ min m.place n.place := by
        rw [Int.add_mul, decreaseExponent_units s m (Nat.min_le_left _ _),
          decreaseExponent_units t n (Nat.min_le_right _ _), units, units, hs, ht, unitsOf_parts,
          unitsOf_parts]
      rw [sum, hs, ht, exactly]
      simp only [Magnitude.parts, UnpackedFloat.add, hmin]
      exact units_normalize _ _

/-- Taking a finite double away is adding it with the other sign. -/
theorem sub_eq_add_neg (hx : x.isFinite = true) (hy : y.isFinite = true) : x - y = x + -y := by
  have negated : (-y).toModel.unpack = y.toModel.unpack.neg :=
    (isNumber_of_isFinite hy).neg.1.unpack_pack
  change Float.ofModel (.pack (UnpackedFloat.sub Format.binary64 x.toModel.unpack
      y.toModel.unpack)) =
    .ofModel (.pack (UnpackedFloat.add Format.binary64 x.toModel.unpack (-y).toModel.unpack))
  rw [negated]
  rcases finite_cases hx with ⟨s, hs⟩ | ⟨s, m, hm, hs⟩
  · rcases finite_cases hy with ⟨t, ht⟩ | ⟨t, n, hn, ht⟩
    · rw [hs, ht]
      rfl
    · rw [hs, ht]
      rfl
  · rcases finite_cases hy with ⟨t, ht⟩ | ⟨t, n, hn, ht⟩
    · rw [hs, ht]
      rfl
    · rw [hs, ht]
      simp only [Magnitude.parts, UnpackedFloat.sub, UnpackedFloat.add, UnpackedFloat.neg,
        Sign.apply_neg, Int.sub_eq_add_neg]

/-- The difference of two finite doubles is their exact difference, rounded. -/
theorem sub_units (hx : x.isFinite = true) (hy : y.isFinite = true) :
    IsNumber (x - y) ∧ units (x - y) = roundUnits (units x - units y) := by
  rw [sub_eq_add_neg hx hy, Int.sub_eq_add_neg, ← units_neg (isNumber_of_isFinite hy)]
  exact add_units hx (isFinite_neg hy)

end DialogScript.Decimal
