import MapBallot.Plan

/-!
# `MapBallot.Remote.Settings` — the vote settings that the remote tool holds

The remote tool has vote settings of its own: how many options of each kind to offer, and which
layers to leave out after they were played. Every setting has the remote tool's own default.

## Contents

* `Settings`, `Settings.codec`;
* `Settings.plan` — the option counts as a plan.
-/

namespace MapBallot.Remote

open Json (Codec Field)

/-- The vote settings of the remote tool. -/
structure Settings where
  enabled : Bool := false
  lastPlayedToExclude : UInt64 := 3
  warfareOptions : UInt64 := 4
  offensiveOptions : UInt64 := 2
  skirmishOptions : UInt64 := 1
  offensiveSameMap : Bool := true
  skirmishSameMap : Bool := true
  consecutiveOffensives : Bool := true
  consecutiveOffensivesOppositeSides : Bool := false
  consecutiveSkirmishes : Bool := false
  deriving DecidableEq, Repr

namespace Settings

/-- The remote tool's own defaults. -/
def default : Settings := {}

/-- The fields of written settings. -/
def fields : List Field := [
  .withDefault "enabled" .truth default.enabled,
  .withDefault "number_last_played_to_exclude" (.word64 "usize") default.lastPlayedToExclude,
  .withDefault "num_warfare_options" (.word64 "usize") default.warfareOptions,
  .withDefault "num_offensive_options" (.word64 "usize") default.offensiveOptions,
  .withDefault "num_skirmish_control_options" (.word64 "usize") default.skirmishOptions,
  .withDefault "consider_offensive_same_map" .truth default.offensiveSameMap,
  .withDefault "consider_skirmishes_as_same_map" .truth default.skirmishSameMap,
  .withDefault "allow_consecutive_offensives" .truth default.consecutiveOffensives,
  .withDefault "allow_consecutive_offensives_opposite_sides" .truth
    default.consecutiveOffensivesOppositeSides,
  .withDefault "allow_consecutive_skirmishes" .truth default.consecutiveSkirmishes]

/-- Settings are records in which every field has a default. -/
def codec : Codec Settings :=
  .record ⟨"VotemapUserConfig", false, true⟩ fields
    (fun (a, b, c, d, e, f, g, h, i, j, ()) => ⟨a, b, c, d, e, f, g, h, i, j⟩)
    (fun s => (s.enabled, s.lastPlayedToExclude, s.warfareOptions, s.offensiveOptions,
      s.skirmishOptions, s.offensiveSameMap, s.skirmishSameMap, s.consecutiveOffensives,
      s.consecutiveOffensivesOppositeSides, s.consecutiveSkirmishes, ()))

/-- The option counts as a plan. The remote tool's skirmishes are control layers. -/
def plan (s : Settings) : Plan :=
  ((Plan.empty.set .warfare s.warfareOptions).set .offensive s.offensiveOptions).set .control
    s.skirmishOptions

end Settings

end MapBallot.Remote
