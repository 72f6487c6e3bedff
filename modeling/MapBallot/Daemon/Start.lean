import MapBallot.Remote.Connection
import MapBallot.Service.Config

/-!
# `MapBallot.Daemon.Start` — from environment variables to a running service

The variables of the environment name the configuration file, the weighting file, and the remote
tool. Without the files there are defaults; without the remote tool there is no service.

## Contents

* `StartError` — why there is no service, with its wording and its cause;
* `Started`, `start`.
-/

namespace MapBallot.Daemon

open Files (Reader)
open Remote (Connection ConnectionError)
open Weighting (Generation)

/-- Why there is no service. -/
inductive StartError
  | notConfigured (error : ConnectionError)
  | noClient (error : ConnectionError)
  deriving DecidableEq, Repr

/-- The wording of a start error. -/
def StartError.message : StartError → String
  | .notConfigured _ => "remote tool connection is not configured"
  | .noClient _ => "failed to build remote tool client"

/-- What led to a start error. -/
def StartError.cause : StartError → ConnectionError
  | .notConfigured e | .noClient e => e

/-- What a service is started with. -/
structure Started where
  config : Config
  connection : Connection
  /-- How calls present themselves. -/
  authorization : String
  service : Service

/-- The service that a configuration and a weighting give. -/
def serviceOf (config : Config) (weighting : Generation) : Service where
  settings := config.serviceSettings
  weighting := weighting
  tracker := .withRetention config.historyRetention.toNat

/-- Reads the files that the environment names, and prepares the service. -/
def start (environment : String → Option String) (read : Reader) :
    Except StartError Started × List Event :=
  let (config, configLog) := Config.load read (environment "VOTEMAP_CONFIG_PATH")
  let (weighting, weightingLog) :=
    Generation.load read (environment "WEIGHTING_CONFIG_PATH" <|> config.weightingPath)
  let started : Except StartError Started := do
    let connection ← (Connection.ofVariables environment).mapError .notConfigured
    let authorization ← connection.authorization.mapError .noClient
    pure ⟨config, connection, authorization, serviceOf config weighting⟩
  (started, configLog ++ weightingLog)

end MapBallot.Daemon
