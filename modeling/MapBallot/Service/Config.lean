import MapBallot.Net.Address
import MapBallot.Service.Basic

/-!
# `MapBallot.Service.Config` — the configuration file of the service

## Contents

* `Config`, `Config.codec` — the settings and their written form;
* `ConfigError` — why there is no configuration, with its wording;
* `Config.ofText`, `Config.ofFile`, `Config.load`;
* `Config.serviceSettings` — what the service goes by.
-/

namespace MapBallot

open Files (Reader ReadFault)
open Json (Codec Field Draft Fault)
open Net (SocketAddress)

/-- The configuration of the service. -/
structure Config where
  /-- How many options to draw when the remote tool's settings are not used. -/
  options : Plan := .standard
  useRemoteSettings : Bool := true
  exclusions : ExclusionRules := .default
  recencyHorizon : UInt32 := 6
  historyRetention : UInt64 := 10
  normalizeLayerCounts : Bool := false
  runOnRoundStart : Bool := true
  /-- The settle time in milliseconds. -/
  stepDelay : UInt64 := 2000
  seed : Option UInt64 := none
  weightingPath : Option String := none
  commandAddress : SocketAddress := .v4 ⟨127, 0, 0, 1⟩ 41100
  alertAddress : SocketAddress := .v4 ⟨127, 0, 0, 1⟩ 41101
  deriving BEq

/-- Why there is no configuration. -/
inductive ConfigError
  | unparsable (fault : Fault)
  | unreadable (path : String) (fault : ReadFault)
  | emptyPlan
  | zeroRetention
  deriving DecidableEq, Repr

/-- The wording of a configuration error. -/
def ConfigError.message : ConfigError → String
  | .unparsable fault => "failed to parse votemap config: " ++ fault.message
  | .unreadable path fault =>
    "failed to read votemap config from " ++ Text.quote path ++ ": " ++ fault.message
  | .emptyPlan => "votemap config requests no options for any game mode"
  | .zeroRetention => "history_retention must be at least 1"

/-- Socket addresses are texts. -/
def Net.SocketAddress.codec : Codec SocketAddress where
  read d := do
    let s ← (Codec.textAs "socket address").read d
    match SocketAddress.parse? s with
    | some a => pure a
    | none => throw (.invalid "invalid socket address syntax")
  write a := .string a.text

namespace Config

/-- The configuration that leaves everything as it is. -/
def default : Config := {}

/-- The fields of a written configuration. -/
def fields : List Field := [
  .withDefault "options" Plan.codec default.options,
  .withDefault "use_remote_votemap_config" .truth default.useRemoteSettings,
  .withDefault "exclusions" ExclusionRules.codec default.exclusions,
  .withDefault "recency_horizon" .word32 default.recencyHorizon,
  .withDefault "history_retention" (.word64 "usize") default.historyRetention,
  .withDefault "normalize_layer_counts" .truth default.normalizeLayerCounts,
  .withDefault "run_on_round_start" .truth default.runOnRoundStart,
  .withDefault "step_delay_ms" (.word64 "u64") default.stepDelay,
  .optional "seed" (.word64 "u64"),
  .optional "weighting_path" (.textAs "path string"),
  .withDefault "command_bind" SocketAddress.codec default.commandAddress,
  .withDefault "alert_bind" SocketAddress.codec default.alertAddress]

/-- Configurations are records in which every field has a default; unknown fields are refused. -/
def codec : Codec Config :=
  .record ⟨"VotemapConfig", true, true⟩ fields
    (fun (a, b, c, d, e, f, g, h, i, j, k, l, ()) => ⟨a, b, c, d, e, f, g, h, i, j, k, l⟩)
    (fun c => (c.options, c.useRemoteSettings, c.exclusions, c.recencyHorizon, c.historyRetention,
      c.normalizeLayerCounts, c.runOnRoundStart, c.stepDelay, c.seed, c.weightingPath,
      c.commandAddress, c.alertAddress, ()))

/-- A configuration must ask for an option and keep a round. -/
def validated (c : Config) : Except ConfigError Config :=
  if c.options.isEmpty then .error .emptyPlan
  else if c.historyRetention == 0 then .error .zeroRetention
  else .ok c

/-- The configuration that a text describes. -/
def ofText (text : String) : Except ConfigError Config :=
  match codec.ofText text with
  | .ok c => c.validated
  | .error fault => .error (.unparsable fault)

/-- The configuration that a file describes. -/
def ofFile (read : Reader) (path : String) : Except ConfigError Config :=
  match read path with
  | .ok text => ofText text
  | .error fault => .error (.unreadable path fault)

/-- The configuration to start with: that of the configured file, or the default one. -/
def load (read : Reader) (configured : Option String) : Config × List Event :=
  let fallback : Event := ⟨.info, Weighting.configTarget, "votemap_config.loaded=builtin", []⟩
  match configured with
  | none => (default, [fallback])
  | some path =>
    match ofFile read path with
    | .ok c =>
      (c, [⟨.info, Weighting.configTarget, "votemap_config.loaded=file", [("path", path)]⟩])
    | .error e =>
      (default, [⟨.warn, Weighting.configTarget, "votemap_config.load_failed",
        [("path", path), ("error", e.message)]⟩, fallback])

/-- The policy by which layers are chosen. -/
def policy (c : Config) : Policy := ⟨c.recencyHorizon, c.normalizeLayerCounts, c.exclusions⟩

/-- What the service goes by. -/
def serviceSettings (c : Config) : Service.Settings where
  runOnRoundStart := c.runOnRoundStart
  swap := ⟨c.options, c.policy, c.stepDelay, c.useRemoteSettings⟩
  seed := c.seed

end Config

end MapBallot
