import DialogScript.Proofs.Decimal.Magnitude

/-!
Normal doubles of at least one. Such a double is a sign, a significand of fifty-three bits and the
place of its leading bit. The bits of a double say exactly that, and changing the sign flips the
sign alone. Everything here is about one double; which of them an integer is rounded to is said
elsewhere.
-/

namespace DialogScript.Decimal

open Float.Model (Format UnpackedFloat totalExponent)
open Float.Model.UnpackedFloat

theorem log2_mul_two_pow {m : Nat} (hm : 0 < m) (k : Nat) : (m * 2 ^ k).log2 = m.log2 + k := by
  have hk : 0 < 2 ^ k := Nat.two_pow_pos k
  rw [Nat.log2_eq_iff (Nat.ne_of_gt (Nat.mul_pos hm hk))]
  constructor
  · calc 2 ^ (m.log2 + k) = 2 ^ m.log2 * 2 ^ k := Nat.pow_add 2 m.log2 k
      _ ≤ m * 2 ^ k := Nat.mul_le_mul_right (2 ^ k) (Nat.log2_self_le (Nat.ne_of_gt hm))
  · calc m * 2 ^ k < 2 ^ (m.log2 + 1) * 2 ^ k :=
        Nat.mul_lt_mul_of_pos_right Nat.lt_log2_self hk
      _ = 2 ^ (m.log2 + k + 1) := by rw [← Nat.pow_add, Nat.add_right_comm]

/-- The magnitude of a normal double that is at least one: `significand · 2 ^ (leading - 52)`. -/
structure Normal where
  significand : Nat
  leading : Nat
  lower : 2 ^ 52 ≤ significand
  upper : significand < 2 ^ 53
  bound : leading ≤ 1023

namespace Normal

variable (x : Normal) (s : Sign)

theorem pos : 0 < x.significand := Nat.lt_of_lt_of_le (by decide) x.lower

/-- The parts of the double with a sign. -/
def parts : UnpackedFloat := .finite s x.significand (x.leading - 52) x.pos

/-- The double with a sign. -/
def float : Float := .ofModel (.pack (x.parts s))

theorem log2_significand : x.significand.log2 = 52 :=
  (Nat.log2_eq_iff (Nat.ne_of_gt x.pos)).mpr ⟨x.lower, x.upper⟩

theorem log2_scaled (k : Nat) : (x.significand * 2 ^ k).log2 = 52 + k := by
  rw [log2_mul_two_pow x.pos, log2_significand]

/-! ## Bits -/

/-- A normal double among all doubles. -/
def toMagnitude : Magnitude where
  significand := x.significand
  place := x.leading + 1022
  pos := x.pos
  upper := x.upper
  lead := .inl x.lower

theorem parts_eq : x.parts s = x.toMagnitude.parts s := by
  have hplace : (x.leading - 52 : Int) = (x.leading + 1022 : Nat) - 1074 := by omega
  rw [parts, hplace]
  rfl

theorem place_le : x.toMagnitude.place ≤ highest := by
  have hb := x.bound
  change x.leading + 1022 ≤ 2045
  omega

/-- The three fields that a normal double is packed into. -/
theorem pack_parts : pack Format.binary64 (x.parts s) =
    packComponents Format.binary64 s (BitVec.ofNat 11 (x.leading + 1023))
      (BitVec.ofNat 52 x.significand) := by
  rw [parts_eq]
  exact x.toMagnitude.pack_normal s x.place_le x.lower

theorem field_toNat : (BitVec.ofNat 11 (x.leading + 1023)).toNat = x.leading + 1023 := by
  have hb := x.bound
  rw [BitVec.toNat_ofNat]
  omega

/-- Packed and unpacked, a normal double has the same parts. -/
theorem unpack_pack : (Float.Model.pack (x.parts s)).unpack = x.parts s := by
  rw [parts_eq]
  exact (Proper.finite s x.place_le).unpack_pack

theorem neg_float : -(x.float s) = x.float (-s) := by
  change Float.ofModel (.pack (Float.Model.pack (x.parts s)).unpack.neg) = x.float (-s)
  rw [unpack_pack]
  rfl

/-- The bits of a positive normal double: the exponent, and the significand without its leading
bit. -/
theorem toNat_pack : (pack Format.binary64 (x.parts .positive)).toNat =
    (x.leading + 1022) * 2 ^ 52 + x.significand := by
  have hl := x.lower
  have hu := x.upper
  have hm : x.significand % 2 ^ 52 < 2 ^ 52 := Nat.mod_lt _ (by decide)
  calc (pack Format.binary64 (x.parts .positive)).toNat
      = (0#1 ++ BitVec.ofNat 11 (x.leading + 1023) ++ BitVec.ofNat 52 x.significand).toNat := by
        rw [pack_parts]
        rfl
    _ = (x.leading + 1023) <<< 52 ||| x.significand % 2 ^ 52 := by
        rw [BitVec.toNat_append, BitVec.toNat_append, field_toNat, BitVec.toNat_ofNat,
          BitVec.toNat_ofNat]
        simp
    _ = (x.leading + 1023) <<< 52 + x.significand % 2 ^ 52 :=
        (Nat.shiftLeft_add_eq_or_of_lt hm _).symm
    _ = (x.leading + 1022) * 2 ^ 52 + x.significand := by
        rw [Nat.shiftLeft_eq]
        omega

theorem ofBits_toUInt64 :
    Float.ofBits ((x.leading + 1022) * 2 ^ 52 + x.significand).toUInt64 = x.float .positive := by
  have hb := x.bound
  have hu := x.upper
  have same : ((x.leading + 1022) * 2 ^ 52 + x.significand).toUInt64.toBitVec =
      pack Format.binary64 (x.parts .positive) := by
    apply BitVec.eq_of_toNat_eq
    rw [toNat_pack, UInt64.toNat_toBitVec, UInt64.toNat_ofNat']
    exact Nat.mod_eq_of_lt (by omega)
  generalize ((x.leading + 1022) * 2 ^ 52 + x.significand).toUInt64 = bits at same
  change Float.ofModel (.pack (UnpackedFloat.unpack Format.binary64 bits.toBitVec)) = _
  rw [same]
  exact congrArg (fun u => Float.ofModel (.pack u)) (x.unpack_pack .positive)

/-! ## Magnitudes -/

variable {x} {y : Normal}

/-- The significand and the place of the leading bit are told by the magnitude. -/
theorem eq_of_magnitude
    (h : x.significand * 2 ^ x.leading = y.significand * 2 ^ y.leading) : x = y := by
  have hl : x.leading = y.leading := by
    have hlog := congrArg Nat.log2 h
    rw [x.log2_scaled, y.log2_scaled] at hlog
    omega
  have hs : x.significand = y.significand := by
    rw [hl] at h
    exact Nat.eq_of_mul_eq_mul_right (Nat.two_pow_pos y.leading) h
  cases x
  cases y
  cases hl
  cases hs
  rfl

/-- A normal double has the magnitude of a natural number. -/
def IsMagnitude (x : Normal) (a : Nat) : Prop := x.significand * 2 ^ x.leading = a * 2 ^ 52

end Normal

end DialogScript.Decimal
