import Mathlib.Algebra.Order.Ring.Rat
import MapBallot.Scalar

/-!
# `MapBallot.Proofs.Scalar.Positive` — adding up positive numbers

Drawing needs little of the numbers in which scores are computed. Sums may be rounded, as long as no sum of
positive numbers is rounded to zero.

## Contents

* `PositiveSums` — numbers whose positive ones have positive sums;
* fractions are such numbers.
-/

namespace MapBallot

/-- Numbers among which sums of positive ones are positive. -/
class PositiveSums (α : Type) [Scalar α] : Prop where
  zero_le {x : α} : Scalar.lt (Scalar.ofNat 0) x = true → Scalar.le (Scalar.ofNat 0) x = true
  not_le_zero {x : α} : Scalar.lt (Scalar.ofNat 0) x = true → Scalar.le x (Scalar.ofNat 0) = false
  add_pos {x y : α} : Scalar.lt (Scalar.ofNat 0) x = true → Scalar.lt (Scalar.ofNat 0) y = true →
    Scalar.lt (Scalar.ofNat 0) (x + y) = true

instance : PositiveSums Rat where
  zero_le h := decide_eq_true (of_decide_eq_true h).le
  not_le_zero h := decide_eq_false (not_le.2 (of_decide_eq_true h))
  add_pos hx hy := decide_eq_true (add_pos (of_decide_eq_true hx) (of_decide_eq_true hy))

end MapBallot
