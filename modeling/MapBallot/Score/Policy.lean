import MapBallot.Exclusion

/-!
# `MapBallot.Score.Policy` — how layers are chosen
-/

namespace MapBallot

open Json (Codec Field)

/-- How layers are chosen. -/
structure Policy where
  /-- The number of rounds after which a played map counts in full again. -/
  recencyHorizon : UInt32 := 6
  /-- Each score is divided by the numbers of layers that share its map and its environment. -/
  normalizeLayerCounts : Bool := false
  /-- What is left out before layers are scored for a plan. -/
  exclusions : ExclusionRules := .default
  deriving DecidableEq, Repr

namespace Policy

/-- The policy used unless told otherwise. -/
def default : Policy := {}

/-- The fields of a written policy. -/
def fields : List Field := [
  .required "recency_horizon" .word32,
  .required "normalize_layer_counts" .truth,
  .withDefault "exclusions" ExclusionRules.codec .default]

/-- Policies are records. -/
def codec : Codec Policy :=
  .record ⟨"SelectionPolicy", false, true⟩ fields
    (fun (a, b, c, ()) => ⟨a, b, c⟩)
    (fun p => (p.recencyHorizon, p.normalizeLayerCounts, p.exclusions, ()))

end Policy

end MapBallot
