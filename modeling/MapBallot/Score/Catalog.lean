import MapBallot.Event
import MapBallot.Score.Decay
import MapBallot.Score.Policy

/-!
# `MapBallot.Score.Catalog` — the scores of a catalog's layers

A layer's score is the product of the weights of its map group and its environment group, each
lowered for recent play. The map axis decays with the rounds since that very map was played, the
environment axis with the rounds since any environment of the group was. Layers without groups, or
with a score that is not positive, cannot be drawn.

## Contents

* `Scored` — a layer with its score;
* `distinctById` — each id once, in ascending order;
* `rawScores` — the scores of the layers that have groups;
* `scoreCatalog` — the layers that can be drawn;
* `unconfiguredEvents` — the log entry about layers without groups.
-/

namespace MapBallot

open Weighting (Group Parameters)

variable {α : Type}

/-- A layer with its score. -/
structure Scored (α : Type) where
  layer : Layer
  score : α
  deriving DecidableEq, Repr

/-- One layer for each id, in ascending order of the ids; of several with one id the first. -/
def distinctById (catalog : List Layer) : List Layer :=
  Ascending.arrange (fun a b => a.id < b.id) catalog

/-- How many of the layers have the game mode and the map of `l`. -/
def sameMapCount (ls : List Layer) (l : Layer) : Nat :=
  ls.countP fun o => o.gameMode == l.gameMode && o.map == l.map

/-- How many of the layers have the game mode and the environment of `l`. -/
def sameEnvironmentCount (ls : List Layer) (l : Layer) : Nat :=
  ls.countP fun o => o.gameMode == l.gameMode && o.environment == l.environment

section

variable [Scalar α]

/-- The score of a layer whose groups are known. -/
def groupScore (history : History) (horizon : Nat) (map : String) (mapGroup : Group String α)
    (environmentGroup : Group Environment α) : α :=
  Scalar.ofNat mapGroup.weight
    * decayFactor mapGroup.repeatDecay (history.recencyOfMap map) horizon
    * Scalar.ofNat environmentGroup.weight
    * decayFactor environmentGroup.repeatDecay (history.recencyOfEnvironments environmentGroup)
      horizon

/-- A layer with its score, if it has a map group and an environment group. -/
def rawScore? (parameters : Parameters α) (history : History) (horizon : Nat) (l : Layer) :
    Option (Scored α) := do
  let mapGroup ← parameters.mapGroupOf? l.map
  let environmentGroup ← parameters.environmentGroupOf? l.environment
  pure ⟨l, groupScore history horizon l.map mapGroup environmentGroup⟩

/-- The layers that have groups, with their scores. -/
def rawScores (parameters : Parameters α) (history : History) (horizon : Nat)
    (catalog : List Layer) : List (Scored α) :=
  (distinctById catalog).filterMap (rawScore? parameters history horizon)

/-- A score divided by the numbers of layers that share its map and its environment. -/
def normalized (ls : List Layer) (s : Scored α) : Scored α :=
  { s with score :=
      s.score / Scalar.ofNat (sameMapCount ls s.layer * sameEnvironmentCount ls s.layer) }

/-- A score with which a layer can be drawn. -/
def isDrawable (s : Scored α) : Bool :=
  Scalar.lt (Scalar.ofNat 0) s.score && Scalar.isFinite s.score

/-- The layers that can be drawn, each id once and in ascending order, with their scores. -/
def scoreCatalog (parameters : Parameters α) (history : History) (catalog : List Layer)
    (policy : Policy) : List (Scored α) :=
  let raw := rawScores parameters history policy.recencyHorizon.toNat catalog
  let ls := raw.map Scored.layer
  (if policy.normalizeLayerCounts then raw.map (normalized ls) else raw).filter isDrawable

end

/-- The log entry about the maps and environments of layers that have no group. -/
def unconfiguredEvents (parameters : Parameters α) (catalog : List Layer) : List Event :=
  let ls := distinctById catalog
  let maps := (ls.map Layer.map).filter fun m => (parameters.mapGroupOf? m).isNone
  let environments := (ls.map Layer.environment).filter fun e =>
    (parameters.environmentGroupOf? e).isNone
  let maps := Ascending.arrange (fun a b => a < b) maps
  let environments := Environment.all.filter environments.contains
  if maps.isEmpty && environments.isEmpty then []
  else [⟨.warn, "votemap::selection", "selection.unconfigured_excluded",
    [("maps", Text.showSet (maps.map Text.quote)),
      ("environments", Text.showSet (environments.map Environment.label))]⟩]

end MapBallot
