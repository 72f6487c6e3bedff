import MapBallot.Random.Stream
import MapBallot.Score.Catalog

/-!
# `MapBallot.Selection.Draw` — drawing in proportion to the scores

The scores of a pool are laid end to end; a random word selects a point of the whole, and the layer
under the point is drawn and leaves the pool. Each draw lays out the scores that are left.

## Contents

* `SamplingFault` — scores that cannot be drawn from;
* `total`, `innerBounds` — the whole, and the bounds between the scores;
* `drawIndex` — the position under a point;
* `drawMany` — several draws, one after the other.
-/

namespace MapBallot.Selection

variable {α : Type} [Scalar α]

/-- Why scores cannot be drawn from. -/
inductive SamplingFault
  | noItem
  | invalidWeight
  | allWeightsZero
  deriving DecidableEq, Repr

/-- The wording of a sampling fault. -/
def SamplingFault.message : SamplingFault → String
  | .noItem => "No weights provided in distribution"
  | .invalidWeight => "A weight is invalid in distribution"
  | .allWeightsZero => "All weights are zero in distribution"

/-- The sums of the first score, of the first two, and so on, added to `sum`; without that of all.
-/
def boundsAfter (sum : α) : List α → List α
  | [] => []
  | w :: ws => sum :: boundsAfter (sum + w) ws

/-- The bounds between the scores, laid end to end. -/
def innerBounds : List α → List α
  | [] => []
  | w :: ws => boundsAfter w ws

/-- All scores, added from left to right. -/
def total : List α → α
  | [] => Scalar.ofNat 0
  | w :: ws => ws.foldl (· + ·) w

/-- The position of the score under a point: the number of bounds that are not greater. -/
def drawIndex (weights : List α) (point : α) : Nat :=
  (innerBounds weights).countP fun bound => Scalar.le bound point

theorem length_boundsAfter (sum : α) (ws : List α) : (boundsAfter sum ws).length = ws.length := by
  induction ws generalizing sum with
  | nil => rfl
  | cons w ws ih => simp [boundsAfter, ih]

theorem drawIndex_lt {weights : List α} (h : weights ≠ []) (point : α) :
    drawIndex weights point < weights.length := by
  cases weights with
  | nil => exact absurd rfl h
  | cons w ws =>
    refine Nat.lt_succ_of_le (Nat.le_trans List.countP_le_length ?_)
    simp [innerBounds, length_boundsAfter]

/-- Why a pool cannot be drawn from, if it cannot. -/
def samplingFault? (weights : List α) : Option SamplingFault :=
  if weights.isEmpty then some .noItem
  else if !weights.all (Scalar.le (Scalar.ofNat 0)) then some .invalidWeight
  else if Scalar.le (total weights) (Scalar.ofNat 0) then some .allWeightsZero
  else none

/-- Draws `n` layers from a pool, one word for each; a drawn layer leaves the pool. -/
def drawMany : Nat → List (Scored α) → RandomStream →
    Except SamplingFault (List (Scored α)) × RandomStream
  | 0, _, stream => (.ok [], stream)
  | n + 1, pool, stream =>
    let weights := pool.map Scored.score
    match samplingFault? weights with
    | some fault => (.error fault, stream)
    | none =>
      let (word, stream) := stream.next
      let index := drawIndex weights (Scalar.pick (total weights) word)
      match drawMany n (pool.eraseIdx index) stream with
      | (.ok rest, stream) => (.ok (pool[index]?.toList ++ rest), stream)
      | (.error fault, stream) => (.error fault, stream)

end MapBallot.Selection
