import Mathlib.Algebra.Order.Field.Basic
import Mathlib.Algebra.Order.Field.Rat
import Mathlib.Order.Monotone.Defs
import Mathlib.Tactic.Linarith
import Mathlib.Tactic.Positivity
import MapBallot.Proofs.History.Recency
import MapBallot.Score.Decay

/-!
# `MapBallot.Proofs.Score.Decay` — what is left of a weight

A group that was just played keeps the share `1 - repeatDecay` of its weight, and the share grows from round
to round until the horizon, from which on the whole weight is left. So nothing is left only right after the
round, and only where the decay is full. These are laws of exact fractions; that nothing is divided by zero
is read off the same definition in numbers that are undefined then.

## Contents

* `Checked` — exact fractions that become undefined when one is divided by zero;
* `decayFactor_of_lt`, `decayFactor_of_le`, `decayFactor_mono` — the pieces of the curve, and that it climbs;
* `RuledOut`, `decayFactor_pos_iff` — when nothing is left;
* `DecayLaw`, `decayLaw` — the curve of one decay and one horizon.
-/

namespace MapBallot

/-! ## Division by zero -/

/-- Exact fractions, or what comes of a division by zero. -/
inductive Checked
  | exact (x : Rat)
  | undefined
  deriving DecidableEq

namespace Checked

/-- An operation on defined numbers. -/
def lift (f : Rat → Rat → Checked) : Checked → Checked → Checked
  | .exact x, .exact y => f x y
  | _, _ => .undefined

/-- A comparison of defined numbers. -/
def compare (f : Rat → Rat → Bool) : Checked → Checked → Bool
  | .exact x, .exact y => f x y
  | _, _ => false

/-- Exact fractions, as long as none is divided by zero. -/
instance : Scalar Checked where
  add := lift fun x y => .exact (x + y)
  sub := lift fun x y => .exact (x - y)
  mul := lift fun x y => .exact (x * y)
  div := lift fun x y => if y = 0 then .undefined else .exact (x / y)
  ofNat n := .exact n
  lt := compare Scalar.lt
  le := compare Scalar.le
  isFinite x := x != .undefined
  pick total word := lift (fun x _ => .exact (Scalar.pick x word)) total total

theorem div_exact (x : Rat) {y : Rat} (h : y ≠ 0) : exact x / exact y = exact (x / y) := if_neg h

end Checked

/-! ## The curve -/

section

variable {d : Rat} {r r' : Recency} {horizon n : Nat}

@[simp] theorem decayFactor_never : decayFactor d .never horizon = 1 := rfl

theorem decayFactor_of_le (h : horizon ≤ n) : decayFactor d (.rounds n) horizon = 1 := if_pos h

theorem decayFactor_of_lt (h : n < horizon) :
    decayFactor d (.rounds n) horizon = 1 - d * (1 - (n : Rat) / horizon) := if_neg (not_le.2 h)

/-- Nothing is divided by zero: within the horizon there is a horizon. -/
theorem decayFactor_checked :
    decayFactor (Checked.exact d) r horizon = .exact (decayFactor d r horizon) := by
  cases r with
  | never => rfl
  | rounds n =>
    rcases le_or_gt horizon n with past | within
    · rw [decayFactor_of_le past]
      exact if_pos past
    · have divisor : (horizon : Rat) ≠ 0 := Nat.cast_ne_zero.2 (Nat.ne_zero_of_lt within)
      rw [decayFactor_of_lt within, decayFactor, if_neg (not_le.2 within)]
      change Checked.exact 1 - .exact d * (.exact 1 - .exact n / .exact horizon) = _
      rw [Checked.div_exact _ divisor]
      rfl

/-- At most the whole is left. -/
theorem decayFactor_le_one (nonneg : 0 ≤ d) : decayFactor d r horizon ≤ 1 := by
  cases r with
  | never => exact le_rfl
  | rounds n =>
    rcases le_or_gt horizon n with past | within
    · exact (decayFactor_of_le past).le
    · have share : (n : Rat) / horizon ≤ 1 :=
        div_le_one_of_le₀ (by exact_mod_cast within.le) (Nat.cast_nonneg _)
      rw [decayFactor_of_lt within]
      exact sub_le_self _ (mul_nonneg nonneg (sub_nonneg.2 share))

/-- **The share that is left climbs** from round to round, and is the greatest for what was never
played. -/
theorem decayFactor_mono (nonneg : 0 ≤ d) (h : r ≤ r') :
    decayFactor d r horizon ≤ decayFactor d r' horizon := by
  cases r' with
  | never => exact decayFactor_le_one nonneg
  | rounds n' =>
    cases r with
    | never => exact absurd h Recency.not_never_le_rounds
    | rounds n =>
      rw [Recency.rounds_le_rounds_iff] at h
      rcases le_or_gt horizon n' with past | within
      · rw [decayFactor_of_le past]
        exact decayFactor_le_one nonneg
      · rw [decayFactor_of_lt within, decayFactor_of_lt (h.trans_lt within)]
        gcongr

theorem decayFactor_zero (h : 0 < horizon) : decayFactor d (.rounds 0) horizon = 1 - d := by
  rw [decayFactor_of_lt h, Nat.cast_zero, zero_div, sub_zero, mul_one]

/-- At least the rest of the decay is left. -/
theorem one_sub_le_decayFactor (nonneg : 0 ≤ d) : 1 - d ≤ decayFactor d r horizon := by
  rcases Nat.eq_zero_or_pos horizon with rfl | some
  · have whole : decayFactor d r 0 = 1 := by
      cases r with
      | never => rfl
      | rounds n => exact decayFactor_of_le (Nat.zero_le n)
    rw [whole]
    exact sub_le_self _ nonneg
  · rw [← decayFactor_zero some]
    refine decayFactor_mono nonneg ?_
    cases r with
    | never => exact Recency.le_never _
    | rounds n => exact Recency.rounds_le_rounds_iff.2 (Nat.zero_le n)

/-- Nothing is left: the decay is full, and something was played in the newest round. -/
def RuledOut (d : Rat) (r : Recency) (horizon : Nat) : Prop := d = 1 ∧ r = .rounds 0 ∧ 0 < horizon

instance : Decidable (RuledOut d r horizon) := inferInstanceAs (Decidable (_ ∧ _ ∧ _))

/-- **Something is left**, except right after a round and under full decay. -/
theorem decayFactor_pos_iff (nonneg : 0 ≤ d) (atMostOne : d ≤ 1) :
    0 < decayFactor d r horizon ↔ ¬ RuledOut d r horizon := by
  constructor
  · rintro positive ⟨rfl, rfl, some⟩
    rw [decayFactor_zero some, sub_self] at positive
    exact lt_irrefl _ positive
  · intro kept
    rcases atMostOne.lt_or_eq with partly | rfl
    · exact (sub_pos.2 partly).trans_le (one_sub_le_decayFactor nonneg)
    cases r with
    | never => exact one_pos
    | rounds n =>
      rcases le_or_gt horizon n with past | within
      · rw [decayFactor_of_le past]
        exact one_pos
      · -- Under full decay the share of the rounds is left.
        have played : n ≠ 0 := by
          rintro rfl
          exact kept ⟨rfl, rfl, within⟩
        rw [decayFactor_of_lt within, one_mul, sub_sub_cancel]
        have := Nat.zero_lt_of_lt within
        positivity

end

/-- How the share that is left of a weight depends on what was played when. -/
structure DecayLaw (d : Rat) (horizon : Nat) : Prop where
  defined : ∀ r, decayFactor (Checked.exact d) r horizon = .exact (decayFactor d r horizon)
  lower : ∀ r, 1 - d ≤ decayFactor d r horizon
  upper : ∀ r, decayFactor d r horizon ≤ 1
  climbs : Monotone fun r => decayFactor d r horizon
  played : 0 < horizon → decayFactor d (.rounds 0) horizon = 1 - d
  recovered : ∀ n, horizon ≤ n → decayFactor d (.rounds n) horizon = 1
  never : decayFactor d .never horizon = 1

theorem decayLaw {d : Rat} (nonneg : 0 ≤ d) (horizon : Nat) : DecayLaw d horizon where
  defined _ := decayFactor_checked
  lower _ := one_sub_le_decayFactor nonneg
  upper _ := decayFactor_le_one nonneg
  climbs _ _ := decayFactor_mono nonneg
  played := decayFactor_zero
  recovered _ := decayFactor_of_le
  never := decayFactor_never

end MapBallot
