import MapBallot.History.Basic
import MapBallot.Remote.Settings

/-!
# `MapBallot.Exclusion` — rotation rules that take layers out of the vote

The round being played is the newest one of the history, and the rounds before it are the recently
played ones. Rules say which layers must not follow them. They are resolved against a history and a
catalog before any layer is scored; the rules about consecutive modes need to know the exact layer
being played, and are skipped when it is not known.

## Contents

* `ExclusionRules`, `ExclusionRules.none`, `ExclusionRules.ofSettings`, `ExclusionRules.codec`;
* `Exclusions`, `Exclusions.resolve`, `Exclusions.permits`, `Exclusions.restrict`.
-/

namespace MapBallot

open Json (Codec Field)

/-- Which layers may not follow the rounds played last. -/
structure ExclusionRules where
  /-- How many rounds before the current one count as recently played. -/
  lastPlayedToExclude : UInt64
  /-- Offensive layers on a recently played map are left out. -/
  offensiveSameMap : Bool
  /-- Control layers on a recently played map are left out. -/
  skirmishSameMap : Bool
  /-- An offensive layer may follow an offensive layer. -/
  consecutiveOffensives : Bool
  /-- An offensive layer that follows an offensive layer may have the other side attack. -/
  consecutiveOffensivesOppositeSides : Bool
  /-- A control layer may follow a control layer. -/
  consecutiveSkirmishes : Bool
  deriving DecidableEq, Repr

namespace ExclusionRules

/-- Rules that leave out nothing but the current layer. -/
def none : ExclusionRules := ⟨0, false, false, true, true, true⟩

/-- The rules that the remote tool's settings give. -/
def ofSettings (s : Remote.Settings) : ExclusionRules where
  lastPlayedToExclude := s.lastPlayedToExclude
  offensiveSameMap := s.offensiveSameMap
  skirmishSameMap := s.skirmishSameMap
  consecutiveOffensives := s.consecutiveOffensives
  consecutiveOffensivesOppositeSides := s.consecutiveOffensivesOppositeSides
  consecutiveSkirmishes := s.consecutiveSkirmishes

/-- The rules that the remote tool's default settings give. -/
def default : ExclusionRules := ofSettings .default

/-- The fields of written rules. -/
def fields : List Field := [
  .withDefault "number_last_played_to_exclude" (.word64 "usize") default.lastPlayedToExclude,
  .withDefault "consider_offensive_same_map" .truth default.offensiveSameMap,
  .withDefault "consider_skirmishes_as_same_map" .truth default.skirmishSameMap,
  .withDefault "allow_consecutive_offensives" .truth default.consecutiveOffensives,
  .withDefault "allow_consecutive_offensives_opposite_sides" .truth
    default.consecutiveOffensivesOppositeSides,
  .withDefault "allow_consecutive_skirmishes" .truth default.consecutiveSkirmishes]

/-- Rules are records in which every field has a default; unknown fields are refused. -/
def codec : Codec ExclusionRules :=
  .record ⟨"ExclusionRules", true, true⟩ fields
    (fun (a, b, c, d, e, f, ()) => ⟨a, b, c, d, e, f⟩)
    (fun r => (r.lastPlayedToExclude, r.offensiveSameMap, r.skirmishSameMap,
      r.consecutiveOffensives, r.consecutiveOffensivesOppositeSides, r.consecutiveSkirmishes, ()))

end ExclusionRules

/-- What the rules leave out after one history. -/
structure Exclusions where
  /-- Ids of layers. -/
  layers : List String := []
  /-- Maps on which no offensive layer is offered. -/
  offensiveMaps : List String := []
  /-- Maps on which no control layer is offered. -/
  controlMaps : List String := []
  /-- The mode that may not follow the current layer. -/
  suppressed : Option GameMode := none
  /-- The side that may not attack next. -/
  barredAttackers : Option Team := none
  deriving DecidableEq, Repr

namespace Exclusions

/-- Nothing is left out. -/
def none : Exclusions := {}

/-- The mode that may not follow a layer. -/
def suppressedAfter (rules : ExclusionRules) (current : Layer) : Option GameMode :=
  match current.gameMode with
  | .offensive => if rules.consecutiveOffensives then .none else some .offensive
  | .control => if rules.consecutiveSkirmishes then .none else some .control
  | _ => .none

/-- The side that may not attack after a layer. -/
def barredAfter (rules : ExclusionRules) (current : Layer) : Option Team :=
  if current.gameMode = .offensive && rules.consecutiveOffensives
      && !rules.consecutiveOffensivesOppositeSides then
    current.attackers.map Team.opponent
  else .none

/-- The layer being played, if the history names it and the catalog lists it. -/
def currentLayer? (history : History) (catalog : List Layer) : Option Layer := do
  let play ← history.latest?
  let id ← play.layerId
  catalog.find? (·.id == id)

/-- The rounds before the newest one that count as recently played. -/
def recentPlays (rules : ExclusionRules) (history : History) : List Play :=
  let earlier := history.plays.dropLast
  earlier.drop (earlier.length - rules.lastPlayedToExclude.toNat)

/-- What the rules leave out. -/
def resolve (rules : ExclusionRules) (history : History) (catalog : List Layer) : Exclusions :=
  let recent := recentPlays rules history
  let recentMaps := recent.map (·.map)
  let current? := currentLayer? history catalog
  { layers := (history.latest?.toList ++ recent).filterMap (·.layerId)
    offensiveMaps := if rules.offensiveSameMap then recentMaps else []
    controlMaps := if rules.skirmishSameMap then recentMaps else []
    suppressed := current?.bind (suppressedAfter rules)
    barredAttackers := current?.bind (barredAfter rules) }

/-- Whether a layer may be offered. -/
def permits (e : Exclusions) (l : Layer) : Bool :=
  !e.layers.contains l.id && e.suppressed != some l.gameMode &&
    match l.gameMode with
    | .offensive =>
      !e.offensiveMaps.contains l.map &&
        (e.barredAttackers.isNone || l.attackers != e.barredAttackers)
    | .control => !e.controlMaps.contains l.map
    | _ => true

/-- A plan without the mode that may not follow the current layer. -/
def restrict (e : Exclusions) (plan : Plan) : Plan :=
  match e.suppressed with
  | .none => plan
  | some mode => plan.set mode 0

end Exclusions

end MapBallot
