import DialogScript.Proofs.Decimal.Nearest

/-!
Operations on widened integers. An operation on doubles rounds its exact result, and widening rounds
an integer in the same way; so if two integers are doubles exactly, then the sum, the difference or
the product of the doubles is the widened result, whether or not that is rounded. A zero of integers
is the positive zero, so a product that is zero must not have a negative factor. Where an operand is
rounded none of this holds, and widening before an operation and after it give different doubles.
-/

namespace DialogScript

namespace Decimal

open Float.Model (Format UnpackedFloat totalExponent)
open Float.Model.UnpackedFloat

/-! ## Widened integers -/

/-- A double is the widened integer. The integer zero is the positive zero. -/
inductive Widened : Float → Int → Prop
  | zero : Widened (.ofModel (.pack (.zero .positive))) 0
  | normal (s : Sign) {x : Normal} {a : Nat} :
      0 < a → x.IsNearest a → Widened (x.float s) (s.apply a)

namespace Widened

variable {x y z : Float} {a b c : Int}

/-- The double of an integer other than zero. -/
theorem normal_of_apply {s : Sign} {a : Nat} (h : Widened z (s.apply a)) (ha : 0 < a) :
    ∃ w : Normal, w.IsNearest a ∧ z = w.float s := by
  generalize hc : s.apply (a : Int) = c at h
  cases h with
  | zero => cases s <;> simp only [Sign.apply] at hc <;> omega
  | @normal t w b hb hw =>
    cases s <;> cases t <;> simp only [Sign.apply] at hc
    · exact ⟨w, (show b = a by omega) ▸ hw, rfl⟩
    · omega
    · omega
    · exact ⟨w, (show b = a by omega) ▸ hw, rfl⟩

theorem eq_of_zero (h : Widened z 0) : z = .ofModel (.pack (.zero .positive)) := by
  generalize hc : (0 : Int) = c at h
  cases h with
  | zero => rfl
  | @normal t w b hb _ => cases t <;> simp only [Sign.apply] at hc <;> omega

theorem unique (hx : Widened x a) (hy : Widened y a) : x = y := by
  cases hx with
  | zero => exact hy.eq_of_zero.symm
  | normal s hpos hm =>
    obtain ⟨w, hw, rfl⟩ := hy.normal_of_apply hpos
    rw [hm.unique hw]

/-- The magnitude of an integer that is a double exactly. -/
theorem magnitude {s : Sign} {v : Normal} {a : Nat} (ha : 0 < a) (hv : v.IsNearest a)
    (hd : Number.IsDouble (s.apply a)) : v.IsMagnitude a := by
  refine hv.isMagnitude ha ?_
  rw [Number.IsDouble, Sign.natAbs_apply] at hd
  exact hd

/-! ## Rounding -/

theorem normalize_apply (s t : Sign) {m : Nat} (hm : 0 < m) (e : Int) :
    UnpackedFloat.normalize Format.binary64 (s.apply m) e t =
      UnpackedFloat.round Format.binary64 s m e := by
  cases s with
  | negative =>
    have hc : compare (Sign.negative.apply m) 0 = .lt :=
      Int.compare_eq_lt.mpr (by simp only [Sign.apply]; omega)
    have hn : (-Sign.negative.apply (m : Int)).toNat = m := by simp only [Sign.apply]; omega
    simp only [UnpackedFloat.normalize, hc, hn]
  | positive =>
    have hc : compare (Sign.positive.apply m) 0 = .gt :=
      Int.compare_eq_gt.mpr (by simp only [Sign.apply]; omega)
    have hn : (Sign.positive.apply (m : Int)).toNat = m := by simp only [Sign.apply]; omega
    simp only [UnpackedFloat.normalize, hc, hn]

/-- Rounding an integer gives its double, however the integer is written. -/
theorem normalize_eq (hz : Widened z c) {m : Int} {j : Nat} (h : m * 2 ^ j = c * 2 ^ 52) :
    Float.ofModel (.pack (UnpackedFloat.normalize Format.binary64 m (j - 52) .positive)) = z := by
  have hj : 0 < 2 ^ j := Nat.two_pow_pos j
  cases hz with
  | zero =>
    rw [Int.zero_mul] at h
    obtain rfl : m = 0 := (Int.mul_eq_zero.mp h).resolve_right (by exact_mod_cast Nat.ne_of_gt hj)
    rfl
  | @normal s x a ha hx =>
    rw [Sign.apply_mul_right] at h
    obtain ⟨k, rfl, hk⟩ := Sign.exists_apply (b := a * 2 ^ 52) hj (by exact_mod_cast h)
    have hpos : 0 < k := by
      rcases Nat.eq_zero_or_pos k with rfl | hpos
      · omega
      · exact hpos
    rw [normalize_apply s .positive hpos, hx.round_eq ha s hk]
    rfl

/-- A significand written with the exponent of a smaller double. -/
theorem decreaseExponent_parts (x : Normal) {j : Nat} (hj : j ≤ x.leading) :
    decreaseExponent x.significand (x.leading - 52) (j - 52) =
      (x.significand * 2 ^ (x.leading - j), (j - 52 : Int)) := by
  have hshift : ((x.leading - 52 : Int) - (j - 52)).toNat = x.leading - j := by omega
  simp only [decreaseExponent, hshift, Nat.shiftLeft_eq]
  congr 1
  omega

theorem aligned {x : Normal} {a j : Nat} (hm : x.IsMagnitude a) (hj : j ≤ x.leading) (s : Sign) :
    s.apply ((x.significand * 2 ^ (x.leading - j) : Nat) : Int) * 2 ^ j = s.apply a * 2 ^ 52 := by
  have hpow : x.significand * 2 ^ (x.leading - j) * 2 ^ j = a * 2 ^ 52 := by
    rw [Nat.mul_assoc, ← Nat.pow_add, Nat.sub_add_cancel hj]
    exact hm
  rw [Sign.apply_mul_right, Sign.apply_mul_right]
  exact congrArg s.apply (by exact_mod_cast hpow)

/-! ## Operations -/

theorem add (hx : Widened x a) (hy : Widened y b) (ha : Number.IsDouble a)
    (hb : Number.IsDouble b) (hz : Widened z (a + b)) : x + y = z := by
  cases hx with
  | zero =>
    rw [Int.zero_add] at hz
    cases hy with
    | zero => exact hz.eq_of_zero.symm
    | @normal t w b hpos hw =>
      calc Float.ofModel (.pack (.zero .positive)) + w.float t
          = .ofModel (.pack (UnpackedFloat.add Format.binary64 (.zero .positive)
              (Float.Model.pack (w.parts t)).unpack)) := rfl
        _ = w.float t := by rw [w.unpack_pack]; rfl
        _ = z := (Widened.normal t hpos hw).unique hz
  | @normal s v a hpos hv =>
    cases hy with
    | zero =>
      rw [Int.add_zero] at hz
      calc v.float s + Float.ofModel (.pack (.zero .positive))
          = .ofModel (.pack (UnpackedFloat.add Format.binary64
              (Float.Model.pack (v.parts s)).unpack (.zero .positive))) := rfl
        _ = v.float s := by rw [v.unpack_pack]; rfl
        _ = z := (Widened.normal s hpos hv).unique hz
    | @normal t w b hpos' hw =>
      have hv' := magnitude hpos hv ha
      have hw' := magnitude hpos' hw hb
      have hmin : min (v.leading - 52 : Int) (w.leading - 52) =
        (min v.leading w.leading : Nat) - 52 := by omega
      calc v.float s + w.float t
          = .ofModel (.pack (UnpackedFloat.add Format.binary64
              (Float.Model.pack (v.parts s)).unpack (Float.Model.pack (w.parts t)).unpack)) := rfl
        _ = .ofModel (.pack (UnpackedFloat.add Format.binary64 (v.parts s) (w.parts t))) := by
          rw [v.unpack_pack, w.unpack_pack]
        _ = z := by
          simp only [Normal.parts, UnpackedFloat.add, hmin,
            decreaseExponent_parts v (Nat.min_le_left _ _),
            decreaseExponent_parts w (Nat.min_le_right _ _)]
          apply normalize_eq hz
          rw [Int.add_mul, aligned hv' (Nat.min_le_left _ _), aligned hw' (Nat.min_le_right _ _),
            Int.add_mul]

/-- Taking a normal double away is adding it with the other sign. -/
theorem sub_float (hx : Widened x a) (w : Normal) (t : Sign) :
    x - w.float t = x + w.float (-t) := by
  change Float.ofModel (.pack (UnpackedFloat.sub Format.binary64 x.toModel.unpack
      (Float.Model.pack (w.parts t)).unpack)) =
    .ofModel (.pack (UnpackedFloat.add Format.binary64 x.toModel.unpack
      (Float.Model.pack (w.parts (-t))).unpack))
  rw [w.unpack_pack, w.unpack_pack]
  cases hx with
  | zero => rfl
  | @normal s v a _ _ =>
    change Float.ofModel (.pack (UnpackedFloat.sub Format.binary64
        (Float.Model.pack (v.parts s)).unpack (w.parts t))) =
      .ofModel (.pack (UnpackedFloat.add Format.binary64
        (Float.Model.pack (v.parts s)).unpack (w.parts (-t))))
    rw [v.unpack_pack]
    simp only [Normal.parts, UnpackedFloat.sub, UnpackedFloat.add, Sign.apply_neg,
      Int.sub_eq_add_neg]

theorem sub (hx : Widened x a) (hy : Widened y b) (ha : Number.IsDouble a)
    (hb : Number.IsDouble b) (hz : Widened z (a - b)) : x - y = z := by
  cases hy with
  | @normal t w b hpos hw =>
    rw [hx.sub_float w t]
    refine hx.add (Widened.normal (-t) hpos hw) ha ?_ ?_
    · rw [Number.IsDouble, Sign.natAbs_apply]
      rw [Number.IsDouble, Sign.natAbs_apply] at hb
      exact hb
    · rw [Sign.apply_neg, ← Int.sub_eq_add_neg]
      exact hz
  | zero =>
    rw [Int.sub_zero] at hz
    cases hx with
    | zero => exact hz.eq_of_zero.symm
    | @normal s v a hpos hv =>
      calc v.float s - Float.ofModel (.pack (.zero .positive))
          = .ofModel (.pack (UnpackedFloat.sub Format.binary64
              (Float.Model.pack (v.parts s)).unpack (.zero .positive))) := rfl
        _ = v.float s := by rw [v.unpack_pack]; rfl
        _ = z := (Widened.normal s hpos hv).unique hz

/-- The product of two significands is the product of the magnitudes, written with more bits than a
significand has. -/
theorem product_scaled {v w : Normal} {a b : Nat} (ha : 0 < a) (hb : 0 < b)
    (hv : v.IsMagnitude a) (hw : w.IsMagnitude b) :
    ∃ k : Nat, v.leading + w.leading + k = (a * b).log2 + 52 ∧
      v.significand * w.significand * 2 ^ (a * b).log2 = a * b * 2 ^ (52 + k) := by
  have product : v.significand * w.significand * 2 ^ (v.leading + w.leading) =
      a * b * 2 ^ 104 := calc
    v.significand * w.significand * 2 ^ (v.leading + w.leading)
      = (v.significand * 2 ^ v.leading) * (w.significand * 2 ^ w.leading) := by
        rw [Nat.pow_add, Nat.mul_mul_mul_comm]
    _ = (a * 2 ^ 52) * (b * 2 ^ 52) := by rw [hv, hw]
    _ = a * b * 2 ^ 104 := by rw [Nat.mul_mul_mul_comm, ← Nat.pow_add]
  have long : 104 ≤ (v.significand * w.significand).log2 := by
    rw [Nat.le_log2 (Nat.ne_of_gt (Nat.mul_pos v.pos w.pos))]
    calc 2 ^ 104 = 2 ^ 52 * 2 ^ 52 := rfl
      _ ≤ v.significand * w.significand := Nat.mul_le_mul v.lower w.lower
  have hlog := log2_eq_of_mul (Nat.mul_pos ha hb) product
  obtain ⟨k, hk⟩ := Nat.exists_eq_add_of_le
    (show v.leading + w.leading ≤ (a * b).log2 by omega)
  refine ⟨52 + k, by omega, ?_⟩
  rw [hk, Nat.pow_add, ← Nat.mul_assoc, product, Nat.mul_assoc, ← Nat.pow_add, ← Nat.add_assoc]

theorem mul (hx : Widened x a) (hy : Widened y b) (ha : Number.IsDouble a)
    (hb : Number.IsDouble b) (hz : Widened z (a * b)) (hs : a * b = 0 → 0 ≤ a ∧ 0 ≤ b) :
    x * y = z := by
  cases hx with
  | zero =>
    rw [Int.zero_mul] at hz
    have hnonneg : 0 ≤ b := (hs (Int.zero_mul b)).2
    rw [hz.eq_of_zero]
    cases hy with
    | zero => rfl
    | @normal t w b hpos _ =>
      cases t with
      | negative => simp only [Sign.apply] at hnonneg; omega
      | positive =>
        calc Float.ofModel (.pack (.zero .positive)) * w.float .positive
            = .ofModel (.pack (UnpackedFloat.mul Format.binary64 (.zero .positive)
                (Float.Model.pack (w.parts .positive)).unpack)) := rfl
          _ = .ofModel (.pack (.zero .positive)) := by rw [w.unpack_pack]; rfl
  | @normal s v a hpos hv =>
    cases hy with
    | zero =>
      rw [Int.mul_zero] at hz
      have hnonneg : 0 ≤ s.apply a := (hs (Int.mul_zero (s.apply a))).1
      rw [hz.eq_of_zero]
      cases s with
      | negative => simp only [Sign.apply] at hnonneg; omega
      | positive =>
        calc v.float .positive * Float.ofModel (.pack (.zero .positive))
            = .ofModel (.pack (UnpackedFloat.mul Format.binary64
                (Float.Model.pack (v.parts .positive)).unpack (.zero .positive))) := rfl
          _ = .ofModel (.pack (.zero .positive)) := by rw [v.unpack_pack]; rfl
    | @normal t w b hpos' hw =>
      have hproduct : 0 < a * b := Nat.mul_pos hpos hpos'
      rw [Sign.apply_mul] at hz
      have hz' : Widened z ((s * t).apply ((a * b : Nat) : Int)) := by exact_mod_cast hz
      obtain ⟨u, hu, rfl⟩ := hz'.normal_of_apply hproduct
      obtain ⟨k, hk, hm⟩ :=
        product_scaled hpos hpos' (magnitude hpos hv ha) (magnitude hpos' hw hb)
      have he : (v.leading - 52 : Int) + (w.leading - 52) = (a * b).log2 - 52 - k := by omega
      calc v.float s * w.float t
          = .ofModel (.pack (UnpackedFloat.mul Format.binary64
              (Float.Model.pack (v.parts s)).unpack (Float.Model.pack (w.parts t)).unpack)) := rfl
        _ = .ofModel (.pack (roundWithAccuracy Format.binary64 (s * t)
              (v.significand * w.significand) ((v.leading - 52) + (w.leading - 52)) .exact)) := by
          rw [v.unpack_pack, w.unpack_pack]
          rfl
        _ = u.float (s * t) := by
          rw [he, hu.roundWithAccuracy_eq hproduct (s * t) hm]
          rfl

end Widened

/-! ## Widening -/

/-- A widened integer is the double next to its magnitude, with its sign. -/
theorem toDouble_ok {n : Int} {x : Float} (h : Number.toDouble n = .ok x) :
    ∃ y, nearest? n.natAbs 1 = some y ∧ signed (n < 0) y = x := by
  rw [Number.toDouble] at h
  cases hy : nearest? n.natAbs 1 with
  | none =>
    rw [hy] at h
    cases h
  | some y =>
    rw [hy] at h
    exact ⟨y, rfl, Except.ok.inj h⟩

theorem signed_float (negative : Bool) (z : Normal) :
    signed negative (z.float .positive) = z.float (if negative then .negative else .positive) := by
  cases negative with
  | true => exact z.neg_float .positive
  | false => rfl

/-- An integer is widened to its double. -/
theorem widened_of_toDouble {n : Int} {x : Float} (h : Number.toDouble n = .ok x) :
    Widened x n := by
  obtain ⟨y, hy, rfl⟩ := toDouble_ok h
  by_cases hn : n = 0
  · subst hn
    obtain rfl : (0.0 : Float) = y := Option.some.inj hy
    exact .zero
  · have hpos : 0 < n.natAbs := by omega
    obtain ⟨z, rfl, hz⟩ := normal_of_nearest? hpos hy
    have held := Widened.normal (if decide (n < 0) then .negative else .positive) hpos hz
    have value : Sign.apply (if decide (n < 0) then .negative else .positive) n.natAbs = n := by
      by_cases hlt : n < 0
      · rw [if_pos (decide_eq_true hlt)]
        simp only [Sign.apply]
        omega
      · rw [if_neg (by simpa using hlt)]
        simp only [Sign.apply]
        omega
    rw [value] at held
    rw [signed_float]
    exact held

/-- Widening an integer other than zero and changing its sign can be done in either order. -/
theorem toDouble_neg {n : Int} {x : Float} (hn : n ≠ 0) (h : Number.toDouble n = .ok x) :
    Number.toDouble (-n) = .ok (-x) := by
  obtain ⟨y, hy, rfl⟩ := toDouble_ok h
  obtain ⟨z, rfl, _⟩ := normal_of_nearest? (by omega) hy
  have flipped : (decide (-n < 0)) = !decide (n < 0) := by
    by_cases hlt : n < 0
    · rw [decide_eq_true hlt, decide_eq_false (by omega)]
      rfl
    · rw [decide_eq_false hlt, decide_eq_true (by omega)]
      rfl
  rw [Number.toDouble, Int.natAbs_neg, hy, flipped, signed_float]
  refine congrArg Except.ok ?_
  rw [signed_float, z.neg_float]
  cases decide (n < 0) <;> rfl

end Decimal

end DialogScript
