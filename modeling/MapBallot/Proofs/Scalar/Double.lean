import Mathlib
import MapBallot.Proofs.Scalar.Positive

/-!
# `MapBallot.Proofs.Scalar.Double` — adding up positive doubles

A double is a sign, a mantissa of at most 53 places and an exponent of at least -1074. Sums are rounded to
such numbers. Places are cut off a mantissa only if 53 of them are left, so a sum of positive doubles is
never rounded to zero, although it may be rounded to infinity.

## Contents

* `IsPositive` — a positive double, taken apart; `isPositive_iff` — these are the doubles above zero;
* `IsPositive.unpack_pack` — a positive double stays positive when it is written in 64 bits;
* `isPositive_round`, `isPositive_add` — rounded numbers and sums;
* doubles have positive sums.
-/

namespace MapBallot.Double

open Float.Model (UnpackedFloat Format totalExponent)
open Float.Model.UnpackedFloat

/-- The exponent of the least positive double. -/
def leastExponent : Int := -1074

/-- A positive double, taken apart. -/
inductive IsPositive : UnpackedFloat → Prop
  | infinity : IsPositive (.infinity .positive)
  | finite {m : Nat} {e : Int} {h : 0 < m} (places : m < 2 ^ 53) (exponent : leastExponent ≤ e) :
    IsPositive (.finite .positive m e h)

/-! ## Comparing with zero -/

theorem lt_iff_unpack (x y : Float) :
    Scalar.lt x y = true ↔ x.toModel.unpack.lt y.toModel.unpack = true := by
  show decide (Float.lt x y = true) = true ↔ _
  rw [decide_eq_true_iff, Float.lt, decide_eq_true_iff]
  rfl

theorem le_iff_unpack (x y : Float) :
    Scalar.le x y = true ↔ x.toModel.unpack.le y.toModel.unpack = true := by
  show decide (Float.le x y = true) = true ↔ _
  rw [decide_eq_true_iff, Float.le, decide_eq_true_iff]
  rfl

theorem IsPositive.zero_lt {u : UnpackedFloat} (h : IsPositive u) :
    (UnpackedFloat.zero .positive).lt u = true := by
  cases h <;> rfl

theorem IsPositive.zero_le {u : UnpackedFloat} (h : IsPositive u) :
    (UnpackedFloat.zero .positive).le u = true := by
  cases h <;> rfl

theorem IsPositive.not_le_zero {u : UnpackedFloat} (h : IsPositive u) :
    u.le (.zero .positive) = false := by
  cases h <;> rfl

/-- The mantissa of what was written in 64 bits has at most 53 places, and its exponent is not below the
least. -/
theorem unpack_bounds {b : BitVec 64} {s : Sign} {m : Nat} {e : Int} {h : 0 < m}
    (hu : UnpackedFloat.unpack Format.binary64 b = .finite s m e h) :
    m < 2 ^ 53 ∧ leastExponent ≤ e := by
  let written : BitVec 11 := @unpackExponent Format.binary64 b
  let places : BitVec 52 := @unpackMantissa Format.binary64 b
  have few : places.toNat < 2 ^ 52 := places.isLt
  unfold leastExponent
  unfold UnpackedFloat.unpack at hu
  dsimp only at hu
  split at hu
  · split at hu <;> cases hu
  split at hu
  case isTrue =>
    split at hu <;> cases hu
    change places.toNat < 2 ^ 53 ∧ (-1074 : Int) ≤ (written.toNat : Int) - 1075 + 1
    omega
  case isFalse normal =>
    cases hu
    have one : written.toNat ≠ 0 := (BitVec.toNat_ne_iff_ne (y := 0#11)).2 normal
    change (1#1 ++ places).toNat < 2 ^ (1 + 52) ∧ (-1074 : Int) ≤ (written.toNat : Int) - 1075
    exact ⟨(1#1 ++ places).isLt, by omega⟩

/-- What was written in 64 bits is positive if it is greater than zero. -/
theorem isPositive_unpack {b : BitVec 64}
    (h : (UnpackedFloat.zero .positive).lt (UnpackedFloat.unpack Format.binary64 b) = true) :
    IsPositive (UnpackedFloat.unpack Format.binary64 b) := by
  cases hu : UnpackedFloat.unpack Format.binary64 b with
  | infinity s => cases s <;> rw [hu] at h <;> first | exact .infinity | cases h
  | notANumber => rw [hu] at h; cases h
  | zero s => rw [hu] at h; cases h
  | finite s m e hm =>
    obtain ⟨places, exponent⟩ := unpack_bounds hu
    cases s
    case positive => exact .finite places exponent
    case negative => rw [hu] at h; cases h

/-- **A double is positive if it is greater than zero.** -/
theorem isPositive_iff {x : Float} :
    IsPositive x.toModel.unpack ↔ Scalar.lt (Scalar.ofNat 0) x = true := by
  rw [lt_iff_unpack]
  exact ⟨IsPositive.zero_lt, isPositive_unpack⟩

/-! ## Writing doubles -/

/-- A finite number that is written with a place or an exponent is greater than zero. -/
theorem zero_lt_packComponents {exponent : BitVec 11} {mantissa : BitVec 52}
    (finite : exponent ≠ -1#11) (nonzero : exponent ≠ 0#11 ∨ mantissa ≠ 0#52) :
    (UnpackedFloat.zero .positive).lt (UnpackedFloat.unpack Format.binary64
      (packComponents Format.binary64 .positive exponent mantissa)) = true := by
  unfold UnpackedFloat.unpack
  simp only [unpackSign_packComponents, unpackExponent_packComponents, unpackMantissa_packComponents,
    Sign.ofBitVec_toBitVec]
  rw [if_neg finite]
  by_cases subnormal : exponent = 0#11
  · rw [if_pos subnormal, dif_neg (nonzero.resolve_left (not_not.2 subnormal))]
    rfl
  · rw [if_neg subnormal]
    rfl

/-- A positive double stays positive when it is written in 64 bits. -/
theorem IsPositive.unpack_pack {u : UnpackedFloat} (h : IsPositive u) :
    IsPositive (Float.Model.pack u).unpack := by
  refine isPositive_unpack ?_
  cases h with
  | infinity => rfl
  | @finite m e hm places exponent =>
    unfold leastExponent at exponent
    change (UnpackedFloat.zero .positive).lt (UnpackedFloat.unpack Format.binary64
      (UnpackedFloat.pack Format.binary64 _)) = true
    unfold UnpackedFloat.pack
    dsimp only
    split
    case isTrue => rfl
    case isFalse small =>
    change ¬ 2 ^ 11 ≤ (e + 1023 + 52).toNat + 1 at small
    split
    case isTrue =>
      refine zero_lt_packComponents (fun all => ?_) (.inl fun none => ?_)
      · have all : (e + 1023 + 52).toNat % 2 ^ 11 = 2047 := congrArg BitVec.toNat all
        omega
      · have none : (e + 1023 + 52).toNat % 2 ^ 11 = 0 := congrArg BitVec.toNat none
        omega
    case isFalse few =>
      change ¬ m.log2 + 1 = 53 at few
      have log := (Nat.log2_lt (Nat.ne_of_gt hm)).2 places
      have fewer : m < 2 ^ 52 := (Nat.log2_lt (Nat.ne_of_gt hm)).1 (by omega)
      refine zero_lt_packComponents (by decide) (.inr fun none => ?_)
      have none : m % 2 ^ 52 = 0 := congrArg BitVec.toNat none
      omega

/-! ## Rounding -/

theorem mantissa_shiftRight (em : ExtendedMantissa) (k : Nat) :
    (em >>> k).mantissa = em.mantissa / 2 ^ k := by
  induction k with
  | zero => exact (Nat.div_one _).symm
  | succ k ih =>
    change (em >>> k).mantissa / 2 = _
    rw [ih, Nat.div_div_eq_div_mul, Nat.pow_succ]

theorem le_roundedMantissa (em : ExtendedMantissa) : em.mantissa ≤ em.roundedMantissa := by
  obtain ⟨m, _ | _, _ | _⟩ := em
  · exact Nat.le_refl m
  · exact Nat.le_refl m
  · exact Nat.le_add_right m _
  · exact Nat.le_add_right m 1

/-- Cutting off places leaves at most 53 of them, but never nothing. -/
theorem shiftToTargetExponent_bounds {m : Nat} {e : Int} (hm : 0 < m) (he : leastExponent ≤ e) :
    let shifted := shiftToTargetExponent Format.binary64 m e .exact
    0 < shifted.1.mantissa ∧ shifted.1.mantissa < 2 ^ 53 ∧ leastExponent ≤ shifted.2 := by
  intro shifted
  have mantissa : shifted.1.mantissa =
      m / 2 ^ (Format.binary64.targetExponent (totalExponent m e) - e).toNat :=
    mantissa_shiftRight _ _
  have exponent : shifted.2 =
      e + (Format.binary64.targetExponent (totalExponent m e) - e).toNat := rfl
  have target : Format.binary64.targetExponent (totalExponent m e) =
      max (m.log2 + 1 + e - 53) (-1074) := rfl
  rw [mantissa, exponent, target]
  generalize hk : (max (m.log2 + 1 + e - 53 : Int) (-1074) - e).toNat = k
  unfold leastExponent at *
  have lower : 2 ^ m.log2 ≤ m := Nat.log2_self_le (Nat.ne_of_gt hm)
  have upper : m < 2 ^ (m.log2 + 1) := Nat.lt_log2_self
  refine ⟨Nat.div_pos ?_ (Nat.two_pow_pos k), ?_, by omega⟩
  · refine Nat.le_trans (Nat.pow_le_pow_right Nat.two_pos ?_) lower
    omega
  · rw [Nat.div_lt_iff_lt_mul (Nat.two_pow_pos k), ← Nat.pow_add]
    refine Nat.lt_of_lt_of_le upper (Nat.pow_le_pow_right Nat.two_pos ?_)
    omega

theorem isPositive_roundWithAccuracy {m : Nat} {e : Int} (hm : 0 < m) (he : leastExponent ≤ e) :
    IsPositive (roundWithAccuracy Format.binary64 .positive m e .exact) := by
  -- Rounding up may take one place more, so places are cut off twice.
  obtain ⟨some₁, _, exponent₁⟩ := shiftToTargetExponent_bounds hm he
  obtain ⟨some₂, places, exponent₂⟩ :=
    shiftToTargetExponent_bounds (Nat.lt_of_lt_of_le some₁ (le_roundedMantissa _)) exponent₁
  unfold roundWithAccuracy
  dsimp only
  rw [dif_neg (Nat.ne_of_gt some₂)]
  exact .finite places exponent₂

/-- **A positive number is never rounded to zero.** -/
theorem isPositive_round {m : Nat} {e : Int} (hm : 0 < m) (he : leastExponent ≤ e) :
    IsPositive (UnpackedFloat.round Format.binary64 .positive m e) := by
  unfold UnpackedFloat.round decreaseExponent
  dsimp only
  have target : leastExponent ≤ Format.binary64.targetExponent (totalExponent m e) := le_max_right _ _
  refine isPositive_roundWithAccuracy ?_ ?_
  · rw [Nat.shiftLeft_eq]
    exact Nat.mul_pos hm (Nat.two_pow_pos _)
  · omega

/-! ## Adding -/

theorem isPositive_add {u v : UnpackedFloat} (hu : IsPositive u) (hv : IsPositive v) :
    IsPositive (UnpackedFloat.add Format.binary64 u v) := by
  cases hu with
  | infinity => cases hv <;> exact .infinity
  | @finite m₁ e₁ h₁ _ exponent₁ =>
    cases hv with
    | infinity => exact .infinity
    | @finite m₂ e₂ h₂ _ exponent₂ =>
      have positive (m k : Nat) (h : 0 < m) : 0 < m <<< k := by
        rw [Nat.shiftLeft_eq]
        exact Nat.mul_pos h (Nat.two_pow_pos k)
      have sum := Nat.add_pos_left (positive m₁ (e₁ - min e₁ e₂).toNat h₁)
        (m₂ <<< (e₂ - min e₁ e₂).toNat)
      change IsPositive (UnpackedFloat.normalize Format.binary64
        ((m₁ <<< (e₁ - min e₁ e₂).toNat : Nat) + (m₂ <<< (e₂ - min e₁ e₂).toNat : Nat) : Int)
        (min e₁ e₂) .positive)
      rw [← Int.natCast_add]
      generalize m₁ <<< (e₁ - min e₁ e₂).toNat + m₂ <<< (e₂ - min e₁ e₂).toNat = m at sum ⊢
      unfold UnpackedFloat.normalize
      rw [compare_gt_iff_gt.2 (Int.natCast_pos.2 sum)]
      exact isPositive_round sum (le_min exponent₁ exponent₂)

instance : PositiveSums Float where
  zero_le h := (le_iff_unpack _ _).2 (isPositive_iff.2 h).zero_le
  not_le_zero h := by
    rw [Bool.eq_false_iff, ne_eq, le_iff_unpack]
    exact Bool.eq_false_iff.1 (isPositive_iff.2 h).not_le_zero
  add_pos hx hy := isPositive_iff.1 (isPositive_add (isPositive_iff.2 hx) (isPositive_iff.2 hy)).unpack_pack

end MapBallot.Double
