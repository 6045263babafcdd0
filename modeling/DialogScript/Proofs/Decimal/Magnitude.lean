import Mathlib
import DialogScript.Number

/-!
What a double stands for. The smallest positive double is a unit, and every finite double is a whole
number of units, so that doubles are compared, and exact sums of them are told, with integers. Other
than zero, a finite double is a sign and a significand of fifty-three bits at some place; its first
bit is set, unless the place is the lowest one. Packed into bits and unpacked again, it has the same
parts.
-/

namespace DialogScript.Decimal

open Float.Model (Format UnpackedFloat totalExponent)
open Float.Model.UnpackedFloat

/-! ## Signs -/

namespace Sign

theorem apply_mul (s t : Sign) (a b : Int) : s.apply a * t.apply b = (s * t).apply (a * b) := by
  cases s <;> cases t
  · exact Int.neg_mul_neg a b
  · exact Int.neg_mul a b
  · exact Int.mul_neg a b
  · rfl

theorem apply_mul_right (s : Sign) (a b : Int) : s.apply a * b = s.apply (a * b) := by
  cases s
  · exact Int.neg_mul a b
  · rfl

theorem apply_neg (s : Sign) (a : Int) : (-s).apply a = -s.apply a := by
  cases s
  · exact (Int.neg_neg a).symm
  · rfl

/-- A factor of a signed magnitude has its sign. -/
theorem exists_apply {s : Sign} {m : Int} {p b : Nat} (hp : 0 < p)
    (h : m * p = s.apply b) : ∃ k : Nat, m = s.apply k ∧ k * p = b := by
  cases s with
  | negative =>
    have hm : -m * p = b := by rw [Int.neg_mul, h]; exact Int.neg_neg _
    have hnonneg : 0 ≤ -m := by
      apply Int.nonneg_of_mul_nonneg_left (b := p) (by omega) (by omega)
    obtain ⟨k, hk⟩ := Int.eq_ofNat_of_zero_le hnonneg
    rw [hk] at hm
    refine ⟨k, ?_, by exact_mod_cast hm⟩
    simp only [Sign.apply]
    omega
  | positive =>
    have hm : m * p = b := h
    have hnonneg : 0 ≤ m := by
      apply Int.nonneg_of_mul_nonneg_left (b := p) (by omega) (by omega)
    obtain ⟨k, rfl⟩ := Int.eq_ofNat_of_zero_le hnonneg
    exact ⟨k, rfl, by exact_mod_cast hm⟩

theorem natAbs_apply (s : Sign) (a : Nat) : (s.apply a).natAbs = a := by
  cases s
  · exact Int.natAbs_neg a
  · rfl

end Sign

/-! ## Magnitudes -/

/-- The highest place of a significand. -/
def highest : Nat := 2045

/-- The number of units of the power of two that is too large for a double. -/
def overflow : Nat := 2 ^ (53 + highest)

theorem overflow_pos : 0 < overflow := Nat.two_pow_pos _

/-- The magnitude of a double other than zero, at any place: `significand · 2 ^ place` units. -/
structure Magnitude where
  significand : Nat
  place : Nat
  pos : 0 < significand
  upper : significand < 2 ^ 53
  lead : 2 ^ 52 ≤ significand ∨ place = 0

namespace Magnitude

variable (x y : Magnitude) (s : Sign)

/-- The parts of the double with a sign. -/
def parts : UnpackedFloat := .finite s x.significand (x.place - 1074) x.pos

/-- The number of units. -/
def units : Nat := x.significand * 2 ^ x.place

theorem units_pos : 0 < x.units := Nat.mul_pos x.pos (Nat.two_pow_pos _)

/-! ## Order -/

theorem units_upper : x.units < 2 ^ (53 + x.place) := by
  rw [units, Nat.pow_add]
  exact Nat.mul_lt_mul_of_pos_right x.upper (Nat.two_pow_pos _)

theorem units_lower (h : x.place ≠ 0) : 2 ^ (52 + x.place) ≤ x.units := by
  rw [units, Nat.pow_add]
  exact Nat.mul_le_mul_right _ (x.lead.resolve_right h)

variable {x y} in
/-- The place decides first. -/
theorem units_lt_of_place (h : x.place < y.place) : x.units < y.units := calc
  x.units < 2 ^ (53 + x.place) := x.units_upper
  _ ≤ 2 ^ (52 + y.place) := Nat.pow_le_pow_right (by decide) (by omega)
  _ ≤ y.units := y.units_lower (by omega)

theorem units_lt_overflow : x.units < overflow ↔ x.place ≤ highest := by
  constructor
  · intro h
    by_contra hc
    have : overflow ≤ x.units := calc
      overflow ≤ 2 ^ (52 + x.place) := Nat.pow_le_pow_right (by decide) (by omega)
      _ ≤ x.units := x.units_lower (by omega)
    omega
  · intro h
    exact Nat.lt_of_lt_of_le x.units_upper (Nat.pow_le_pow_right (by decide) (by omega))

/-- Comparing places and then significands compares the numbers of units. -/
theorem compare_units : (compare (x.place - 1074 : Int) (y.place - 1074)).then
    (compare x.significand y.significand) = compare (x.units : Int) y.units := by
  rcases Nat.lt_trichotomy x.place y.place with h | h | h
  · have hu := units_lt_of_place h
    rw [Int.compare_eq_lt.mpr (by omega), Int.compare_eq_lt.mpr (by omega)]
    rfl
  · have hp : 0 < 2 ^ y.place := Nat.two_pow_pos _
    rw [Int.compare_eq_eq.mpr (by omega), units, units, h]
    change compare x.significand y.significand = _
    rcases Nat.lt_trichotomy x.significand y.significand with hs | hs | hs
    · have hu := (Nat.mul_lt_mul_right hp).mpr hs
      rw [Nat.compare_eq_lt.mpr hs, Int.compare_eq_lt.mpr (by omega)]
    · rw [Nat.compare_eq_eq.mpr hs, Int.compare_eq_eq.mpr (by rw [hs])]
    · have hu := (Nat.mul_lt_mul_right hp).mpr hs
      rw [Nat.compare_eq_gt.mpr hs, Int.compare_eq_gt.mpr (by omega)]
  · have hu := units_lt_of_place h
    rw [Int.compare_eq_gt.mpr (by omega), Int.compare_eq_gt.mpr (by omega)]
    rfl

end Magnitude

/-! ## Bits -/

/-- What a double is unpacked into, unless it is not a number. -/
inductive Proper : UnpackedFloat → Prop
  | infinity (s : Sign) : Proper (.infinity s)
  | zero (s : Sign) : Proper (.zero s)
  | finite (s : Sign) {x : Magnitude} : x.place ≤ highest → Proper (x.parts s)

theorem unpackSign_packComponents (s : Sign) (field : BitVec 11) (fraction : BitVec 52) :
    unpackSign (packComponents Format.binary64 s field fraction) = s.toBitVec := by
  change (s.toBitVec ++ field ++ fraction).extractLsb' 63 1 = s.toBitVec
  rw [BitVec.extractLsb'_append_eq_of_le (by decide),
    BitVec.extractLsb'_append_eq_of_le (by decide)]
  cases s <;> rfl

theorem ofBitVec_toBitVec (s : Sign) : Sign.ofBitVec s.toBitVec = s := by
  cases s <;> rfl

/-- The significand of a normal double, behind its first bit. -/
theorem implicit_toNat (fraction : BitVec 52) :
    (1#1 ++ fraction).toNat = 2 ^ 52 + fraction.toNat := by
  rw [BitVec.toNat_append, ← Nat.shiftLeft_add_eq_or_of_lt fraction.isLt]
  rfl

theorem Proper.of_finite (s : Sign) {m : Nat} {e : Int} (hm : 0 < m) (upper : m < 2 ^ 53)
    (lead : 2 ^ 52 ≤ m ∨ e = -1074) (low : -1074 ≤ e) (high : e ≤ 971) :
    Proper (.finite s m e hm) := by
  obtain ⟨place, hp⟩ := Int.eq_ofNat_of_zero_le (show 0 ≤ e + 1074 by omega)
  obtain rfl : e = place - 1074 := by omega
  exact .finite s (x := ⟨m, place, hm, upper, lead.imp_right (by omega)⟩)
    (show place ≤ 2045 by omega)

/-- A double that is a number is unpacked into such parts. -/
theorem unpack_proper (x : Float.Model) (h : x.unpack ≠ .notANumber) : Proper x.unpack := by
  revert h
  rw [Float.Model.unpack, UnpackedFloat.unpack]
  have hbias : ((Format.binary64.exponentBias : Nat) : Int) = 1023 := rfl
  have hbits : ((Format.binary64.mantissaBitsWithoutImplicit : Nat) : Int) = 52 := rfl
  have hfraction :
      (@unpackMantissa Format.binary64 x.toBits.toBitVec).toNat < 2 ^ 52 :=
    BitVec.isLt _
  have hfield : (@unpackExponent Format.binary64 x.toBits.toBitVec).toNat < 2 ^ 11 :=
    BitVec.isLt _
  split
  · split
    · exact fun _ => .infinity _
    · exact fun h => absurd rfl h
  · next hinf =>
    split
    · next hsub =>
      split
      · exact fun _ => .zero _
      · rw [hsub, hbias, hbits]
        exact fun _ => .of_finite _ _ (Nat.lt_trans hfraction (by decide)) (.inr rfl) (by decide)
          (by decide)
    · next hnorm =>
      have hlast : (@unpackExponent Format.binary64 x.toBits.toBitVec).toNat ≠ 2047 :=
        fun h => hinf (BitVec.eq_of_toNat_eq h)
      have hfirst : (@unpackExponent Format.binary64 x.toBits.toBitVec).toNat ≠ 0 :=
        fun h => hnorm (BitVec.eq_of_toNat_eq h)
      rw [hbias, hbits]
      refine fun _ => .of_finite _ _ ?_ (.inl ?_) (by omega) (by omega)
      · rw [implicit_toNat]
        omega
      · rw [implicit_toNat]
        omega

namespace Magnitude

variable (x : Magnitude) (s : Sign)

/-- The exponent field of the bits. -/
theorem field_eq : ((x.place - 1074 : Int) + Format.binary64.exponentBias +
    Format.binary64.mantissaBitsWithoutImplicit).toNat = x.place + 1 := by
  change ((x.place - 1074 : Int) + 1023 + 52).toNat = x.place + 1
  omega

theorem log2_eq (h : 2 ^ 52 ≤ x.significand) : x.significand.log2 = 52 :=
  (Nat.log2_eq_iff (Nat.ne_of_gt x.pos)).mpr ⟨h, x.upper⟩

/-- A magnitude at too high a place is packed into infinity. -/
theorem pack_overflow (h : highest < x.place) :
    UnpackedFloat.pack Format.binary64 (x.parts s) = packedInfinity Format.binary64 s := by
  have hfield := x.field_eq
  have hlarge : 2 ^ Format.binary64.exponentBits ≤ x.place + 1 + 1 := by
    change 2045 < x.place at h
    change 2048 ≤ x.place + 1 + 1
    omega
  simp only [parts, UnpackedFloat.pack, hfield, if_pos hlarge]

/-- With its first bit set, a significand is packed without it. -/
theorem pack_normal (h : x.place ≤ highest) (hn : 2 ^ 52 ≤ x.significand) :
    UnpackedFloat.pack Format.binary64 (x.parts s) = packComponents Format.binary64 s
      (BitVec.ofNat 11 (x.place + 1)) (BitVec.ofNat 52 x.significand) := by
  have hfield := x.field_eq
  have hfinite : ¬2 ^ Format.binary64.exponentBits ≤ x.place + 1 + 1 := by
    change x.place ≤ 2045 at h
    change ¬2048 ≤ x.place + 1 + 1
    omega
  simp only [parts, UnpackedFloat.pack, hfield, if_neg hfinite, x.log2_eq hn]
  exact if_pos rfl

/-- A shorter significand stands at the lowest place, and is packed as it is. -/
theorem pack_subnormal (hs : x.significand < 2 ^ 52) :
    UnpackedFloat.pack Format.binary64 (x.parts s) =
      packComponents Format.binary64 s 0#11 (BitVec.ofNat 52 x.significand) := by
  have hfield := x.field_eq
  have hplace : x.place = 0 := x.lead.resolve_left (by omega)
  have hfinite : ¬2 ^ Format.binary64.exponentBits ≤ x.place + 1 + 1 := by
    change ¬2048 ≤ x.place + 1 + 1
    omega
  have hshort : x.significand.log2 < 52 := (Nat.log2_lt (Nat.ne_of_gt x.pos)).mpr hs
  simp only [parts, UnpackedFloat.pack, hfield, if_neg hfinite]
  refine if_neg ?_
  change ¬x.significand.log2 + 1 = 53
  omega

theorem unpack_pack_subnormal (hs : x.significand < 2 ^ 52) :
    UnpackedFloat.unpack Format.binary64 (UnpackedFloat.pack Format.binary64 (x.parts s)) =
      x.parts s := by
  have hplace : x.place = 0 := x.lead.resolve_left (by omega)
  have hsame : (BitVec.ofNat 52 x.significand).toNat = x.significand := by
    rw [BitVec.toNat_ofNat, Nat.mod_eq_of_lt hs]
  have hpos : BitVec.ofNat 52 x.significand ≠ 0#52 := by
    intro hc
    have := congrArg BitVec.toNat hc
    rw [hsame] at this
    exact Nat.ne_of_gt x.pos this
  rw [pack_subnormal x s hs]
  simp only [UnpackedFloat.unpack, unpackMantissa_packComponents, unpackExponent_packComponents,
    unpackSign_packComponents, ofBitVec_toBitVec, hsame, parts, hplace, dif_neg hpos]
  rfl

theorem unpack_pack_normal (h : x.place ≤ highest) (hn : 2 ^ 52 ≤ x.significand) :
    UnpackedFloat.unpack Format.binary64 (UnpackedFloat.pack Format.binary64 (x.parts s)) =
      x.parts s := by
  have hu := x.upper
  change x.place ≤ 2045 at h
  have hfield : (BitVec.ofNat 11 (x.place + 1)).toNat = x.place + 1 := by
    rw [BitVec.toNat_ofNat, Nat.mod_eq_of_lt (by omega)]
  have hinfinite : BitVec.ofNat 11 (x.place + 1) ≠ -1#11 := by
    intro hc
    have := congrArg BitVec.toNat hc
    rw [hfield] at this
    change x.place + 1 = 2047 at this
    omega
  have hsubnormal : BitVec.ofNat 11 (x.place + 1) ≠ 0#11 := by
    intro hc
    have := congrArg BitVec.toNat hc
    rw [hfield] at this
    change x.place + 1 = 0 at this
    omega
  have hsame : (1#1 ++ BitVec.ofNat 52 x.significand).toNat = x.significand := by
    rw [implicit_toNat, BitVec.toNat_ofNat]
    omega
  have hexponent : ((x.place + 1 : Nat) : Int) - (Format.binary64.exponentBias +
      Format.binary64.mantissaBitsWithoutImplicit) = x.place - 1074 := by
    change ((x.place + 1 : Nat) : Int) - (1023 + 52) = x.place - 1074
    omega
  rw [pack_normal x s h hn]
  simp only [UnpackedFloat.unpack, unpackMantissa_packComponents, unpackExponent_packComponents,
    unpackSign_packComponents, if_neg hinfinite, if_neg hsubnormal, ofBitVec_toBitVec, hfield,
    hexponent, hsame, parts]

/-- Packed and unpacked, a double has the same parts. -/
theorem unpack_pack (h : x.place ≤ highest) :
    UnpackedFloat.unpack Format.binary64 (UnpackedFloat.pack Format.binary64 (x.parts s)) =
      x.parts s := by
  rcases Nat.lt_or_ge x.significand (2 ^ 52) with hs | hn
  · exact x.unpack_pack_subnormal s hs
  · exact x.unpack_pack_normal s h hn

end Magnitude

/-- Packed and unpacked, a double that is a number has the same parts. -/
theorem Proper.unpack_pack {u : UnpackedFloat} (h : Proper u) :
    (Float.Model.pack u).unpack = u := by
  cases h with
  | infinity s => cases s <;> rfl
  | zero s => cases s <;> rfl
  | finite s hx => exact Magnitude.unpack_pack _ s hx

/-- A magnitude at too high a place is infinity when it is unpacked again. -/
theorem Magnitude.unpack_overflow (x : Magnitude) (s : Sign) (h : highest < x.place) :
    (Float.Model.pack (x.parts s)).unpack = .infinity s := by
  change UnpackedFloat.unpack Format.binary64 (UnpackedFloat.pack Format.binary64 (x.parts s)) = _
  rw [x.pack_overflow s h]
  exact (Proper.infinity s).unpack_pack

/-! ## Units -/

/-- The number of units of a double. Infinity counts as what is too large for a double. -/
def unitsOf : UnpackedFloat → Int
  | .infinity s => s.apply overflow
  | .notANumber => 0
  | .zero _ => 0
  | .finite s m e _ => s.apply (m * 2 ^ (e + 1074).toNat : Nat)

theorem unitsOf_parts (x : Magnitude) (s : Sign) : unitsOf (x.parts s) = s.apply x.units := by
  have hplace : ((x.place : Int) - 1074 + 1074).toNat = x.place := by omega
  rw [Magnitude.parts, unitsOf, hplace, Magnitude.units]

theorem compare_neg (a b : Int) : compare (-a) (-b) = (compare a b).swap := by
  rcases Int.lt_trichotomy a b with h | h | h
  · rw [Int.compare_eq_lt.mpr h, Int.compare_eq_gt.mpr (by omega)]
    rfl
  · rw [Int.compare_eq_eq.mpr h, Int.compare_eq_eq.mpr (by omega)]
    rfl
  · rw [Int.compare_eq_gt.mpr h, Int.compare_eq_lt.mpr (by omega)]
    rfl

theorem compare_lt {a b : Int} (h : a < b) : some .lt = some (compare a b) := by
  rw [Int.compare_eq_lt.mpr h]

theorem compare_gt {a b : Int} (h : b < a) : some .gt = some (compare a b) := by
  rw [Int.compare_eq_gt.mpr h]

section
variable {v : UnpackedFloat} (hv : Proper v) (s : Sign)
include hv

theorem compare_infinity :
    UnpackedFloat.compare (.infinity s) v = some (compare (unitsOf (.infinity s)) (unitsOf v)) := by
  have large := overflow_pos
  cases hv with
  | infinity t =>
    cases s <;> cases t
    · exact congrArg some (Int.compare_eq_eq.mpr rfl).symm
    · exact compare_lt (by simp only [unitsOf, Sign.apply]; omega)
    · exact compare_gt (by simp only [unitsOf, Sign.apply]; omega)
    · exact congrArg some (Int.compare_eq_eq.mpr rfl).symm
  | zero t =>
    cases s
    · exact compare_lt (by simp only [unitsOf, Sign.apply]; omega)
    · exact compare_gt (by simp only [unitsOf, Sign.apply]; omega)
  | @finite t y hy =>
    have below := y.units_lt_overflow.mpr hy
    rw [unitsOf_parts]
    cases s <;> cases t
    · exact compare_lt (by simp only [unitsOf, Sign.apply]; omega)
    · exact compare_lt (by simp only [unitsOf, Sign.apply]; omega)
    · exact compare_gt (by simp only [unitsOf, Sign.apply]; omega)
    · exact compare_gt (by simp only [unitsOf, Sign.apply]; omega)

theorem compare_zero :
    UnpackedFloat.compare (.zero s) v = some (compare (unitsOf (.zero s)) (unitsOf v)) := by
  have large := overflow_pos
  cases hv with
  | infinity t =>
    cases t
    · exact compare_gt (by simp only [unitsOf, Sign.apply]; omega)
    · exact compare_lt (by simp only [unitsOf, Sign.apply]; omega)
  | zero t => exact congrArg some (Int.compare_eq_eq.mpr rfl).symm
  | @finite t y hy =>
    have hpos := y.units_pos
    rw [unitsOf_parts]
    cases t
    · exact compare_gt (by simp only [unitsOf, Sign.apply]; omega)
    · exact compare_lt (by simp only [unitsOf, Sign.apply]; omega)

theorem compare_parts {x : Magnitude} (hx : x.place ≤ highest) :
    UnpackedFloat.compare (x.parts s) v = some (compare (unitsOf (x.parts s)) (unitsOf v)) := by
  have below := x.units_lt_overflow.mpr hx
  have hpos := x.units_pos
  rw [unitsOf_parts]
  cases hv with
  | infinity t =>
    cases t <;> cases s
    · exact compare_gt (by simp only [unitsOf, Sign.apply]; omega)
    · exact compare_gt (by simp only [unitsOf, Sign.apply]; omega)
    · exact compare_lt (by simp only [unitsOf, Sign.apply]; omega)
    · exact compare_lt (by simp only [unitsOf, Sign.apply]; omega)
  | zero t =>
    cases s
    · exact compare_lt (by simp only [unitsOf, Sign.apply]; omega)
    · exact compare_gt (by simp only [unitsOf, Sign.apply]; omega)
  | @finite t y hy =>
    have hpos' := y.units_pos
    rw [unitsOf_parts]
    cases s <;> cases t
    · change some _ = some (compare (-(x.units : Int)) (-(y.units : Int)))
      rw [compare_neg, ← x.compare_units y]
    · exact compare_lt (by simp only [Sign.apply]; omega)
    · exact compare_gt (by simp only [Sign.apply]; omega)
    · exact congrArg some (x.compare_units y)

end

/-- Doubles are compared as their numbers of units. -/
theorem Proper.compare_eq {u v : UnpackedFloat} (hu : Proper u) (hv : Proper v) :
    UnpackedFloat.compare u v = some (compare (unitsOf u) (unitsOf v)) := by
  cases hu with
  | infinity s => exact compare_infinity hv s
  | zero s => exact compare_zero hv s
  | finite s hx => exact compare_parts hv s hx

/-- The number of units of a double. -/
def units (x : Float) : Int := unitsOf x.toModel.unpack

/-- A double is a number, finite or infinite. -/
def IsNumber (x : Float) : Prop := Proper x.toModel.unpack

theorem units_pack {u : UnpackedFloat} (h : Proper u) : units (.ofModel (.pack u)) = unitsOf u :=
  congrArg unitsOf h.unpack_pack

theorem isNumber_pack {u : UnpackedFloat} (h : Proper u) : IsNumber (.ofModel (.pack u)) := by
  rw [IsNumber, h.unpack_pack]
  exact h

variable {x y : Float}

theorem isNumber_of_isFinite (h : x.isFinite = true) : IsNumber x := by
  refine unpack_proper _ fun hc => ?_
  rw [Float.isFinite, Float.Model.isFinite, hc] at h
  cases h

/-- The parts of a finite double. -/
theorem finite_cases (h : x.isFinite = true) :
    (∃ s, x.toModel.unpack = .zero s) ∨
      ∃ s, ∃ m : Magnitude, m.place ≤ highest ∧ x.toModel.unpack = m.parts s := by
  have number := isNumber_of_isFinite h
  rw [Float.isFinite, Float.Model.isFinite] at h
  rw [IsNumber] at number
  generalize x.toModel.unpack = u at number h
  cases number with
  | infinity s => cases h
  | zero s => exact .inl ⟨s, rfl⟩
  | @finite s m hm => exact .inr ⟨s, m, hm, rfl⟩

theorem lt_iff (hx : IsNumber x) (hy : IsNumber y) : x < y ↔ units x < units y := by
  change decide ((UnpackedFloat.compare x.toModel.unpack y.toModel.unpack == some .lt) = true) =
    true ↔ _
  rw [decide_eq_true_iff, hx.compare_eq hy, beq_iff_eq, Option.some.injEq, Int.compare_eq_lt]
  rfl

theorem le_iff (hx : IsNumber x) (hy : IsNumber y) : x ≤ y ↔ units x ≤ units y := by
  change decide ((UnpackedFloat.compare x.toModel.unpack y.toModel.unpack).any (·.isLE) = true) =
    true ↔ _
  rw [decide_eq_true_iff, hx.compare_eq hy, Option.any_some, Int.isLE_compare]
  rfl

theorem beq_iff (hx : IsNumber x) (hy : IsNumber y) : (x == y) = true ↔ units x = units y := by
  change (UnpackedFloat.compare x.toModel.unpack y.toModel.unpack == some .eq) = true ↔ _
  rw [hx.compare_eq hy, beq_iff_eq, Option.some.injEq, Int.compare_eq_eq]
  rfl

theorem Proper.neg {u : UnpackedFloat} (h : Proper u) :
    Proper u.neg ∧ unitsOf u.neg = -unitsOf u := by
  cases h with
  | infinity s => exact ⟨.infinity _, Sign.apply_neg s _⟩
  | zero s => exact ⟨.zero _, rfl⟩
  | finite s hm => exact ⟨.finite _ hm, Sign.apply_neg s _⟩

theorem Proper.abs {u : UnpackedFloat} (h : Proper u) :
    Proper u.abs ∧ unitsOf u.abs = (unitsOf u).natAbs := by
  cases h with
  | infinity s => exact ⟨.infinity _, congrArg Nat.cast (Sign.natAbs_apply s overflow).symm⟩
  | zero s => exact ⟨.zero _, rfl⟩
  | finite s hm => exact ⟨.finite _ hm, congrArg Nat.cast (Sign.natAbs_apply s _).symm⟩

theorem units_neg (hx : IsNumber x) : units (-x) = -units x :=
  (units_pack hx.neg.1).trans hx.neg.2

theorem isFinite_neg (h : x.isFinite = true) : (-x).isFinite = true := by
  change ((Float.Model.pack x.toModel.unpack.neg).unpack).isFinite = true
  rw [(isNumber_of_isFinite h).neg.1.unpack_pack]
  rcases finite_cases h with ⟨s, hs⟩ | ⟨s, m, _, hs⟩
  · rw [hs]
    rfl
  · rw [hs]
    rfl

theorem isNumber_abs (hx : IsNumber x) : IsNumber x.abs := isNumber_pack hx.abs.1

theorem units_abs (hx : IsNumber x) : units x.abs = (units x).natAbs :=
  (units_pack hx.abs.1).trans hx.abs.2

end DialogScript.Decimal
