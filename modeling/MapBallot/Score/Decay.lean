import MapBallot.History.Basic
import MapBallot.Scalar
import MapBallot.Weighting.Parameters

/-!
# `MapBallot.Score.Decay` — how recent play lowers a score

What was played is offered less often until the recency horizon is past. Right after its round a
group keeps the share `1 - repeatDecay` of its weight, and the share grows in equal steps up to the
whole.

## Contents

* `decayFactor` — the share that is kept;
* `History.recencyOfMapGroup`, `History.recencyOfEnvironmentGroup` — the recency of a group.
-/

namespace MapBallot

open Weighting (Group Parameters)

variable {α : Type}

/-- The share of its weight that a group keeps. -/
def decayFactor [Scalar α] (repeatDecay : α) (recency : Recency) (horizon : Nat) : α :=
  match recency with
  | .never => Scalar.ofNat 1
  | .rounds n =>
    if horizon ≤ n then Scalar.ofNat 1
    else Scalar.ofNat 1 -
      repeatDecay * (Scalar.ofNat 1 - Scalar.ofNat n / Scalar.ofNat horizon)

namespace History

/-- How many rounds ago one of the maps of a group was played. -/
def recencyOfMaps (h : History) (g : Group String α) : Recency :=
  h.recencyWhere fun p => g.members.contains p.map

/-- How many rounds ago one of the environments of a group was played. -/
def recencyOfEnvironments (h : History) (g : Group Environment α) : Recency :=
  h.recencyWhere fun p => g.members.contains p.environment

/-- The recency of the map group with a name; `never` if there is none. -/
def recencyOfMapGroup (h : History) (p : Parameters α) (name : String) : Recency :=
  (p.mapGroup? name).elim .never h.recencyOfMaps

/-- The recency of the environment group with a name; `never` if there is none. -/
def recencyOfEnvironmentGroup (h : History) (p : Parameters α) (name : String) : Recency :=
  (p.environmentGroup? name).elim .never h.recencyOfEnvironments

end History

end MapBallot
