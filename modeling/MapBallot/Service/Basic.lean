import MapBallot.History.Tracker
import MapBallot.Random.ChaCha
import MapBallot.Random.CycleSeed
import MapBallot.Swap.Exclusive
import MapBallot.Swap.Metrics
import MapBallot.Weighting.Store

/-!
# `MapBallot.Service.Basic` — parameters, history and cycles for one remote tool

The service holds the weighting in force, the play history, and the state and tally of its cycles. A
cycle is run with what is in force when it starts, and belongs to the newest recorded round.

## Contents

* `Service`, `Service.Settings`;
* `Service.recordRound`, `Service.input`, `Service.cycleStream`;
* `Service.cycleWith`, `Service.runCycle`, `Service.preview` — on a shared service;
* `Status`, `Service.status`, `Status.toJson`.
-/

namespace MapBallot

open Remote (Host)
open Swap (Cell)

/-- How a service is run. -/
structure Service.Settings where
  /-- A recorded round starts a cycle. -/
  runOnRoundStart : Bool := true
  swap : Swap.Settings := {}
  /-- The seed from which that of each cycle is derived; without one, draws cannot be repeated. -/
  seed : Option UInt64 := none

/-- The weighting, the history and the cycles for one remote tool. -/
structure Service where
  settings : Service.Settings
  weighting : Weighting.Generation
  tracker : Tracker
  swap : Swap.State := {}
  metrics : Swap.Metrics := .none

namespace Service

/-- Records a round that started at `now`. -/
def recordRound (s : Service) (e : RoundStart) (now : Instant) : RecordOutcome × Service :=
  let (outcome, tracker) := s.tracker.recordPlay (e.play now)
  (outcome, { s with tracker := tracker })

/-- What a cycle finds that starts now. -/
def input (s : Service) : Swap.Input Float where
  parameters := s.weighting.parameters
  parametersVersion := s.weighting.version
  history := s.tracker.history
  roundIndex := s.tracker.history.latestIndex?

/-- The random words of a cycle that starts now; `entropy` serves when there is no seed. -/
def cycleStream (s : Service) (entropy : RandomStream) : RandomStream :=
  match s.settings.seed with
  | some seed => .ofSeed (cycleSeed seed s.tracker.history.latestIndex?)
  | none => entropy

section

variable {m : Type → Type} [Monad m]

/-- The state of the cycles of a shared service. -/
def swapCell (cell : Cell m Service) : Cell m Swap.State :=
  cell.focus swap fun s swap => { s with swap := swap }

/-- Runs a cycle with what is in force in `s`, unless one is in progress. -/
def cycleWith (s : Service) (host : Host m) (cell : Cell m Service) (entropy : RandomStream) :
    m (Except Swap.Busy (Swap.Report Float)) := do
  let stream := s.cycleStream entropy
  match ← Swap.runExclusive host (swapCell cell) s.input s.settings.swap stream with
  | .error e => pure (.error e)
  | .ok report =>
    cell.update fun s => { s with metrics := s.metrics.observe report }
    pure (.ok report)

/-- Runs a cycle with what is in force now, unless one is in progress. -/
def runCycle (host : Host m) (cell : Cell m Service) (entropy : RandomStream) :
    m (Except Swap.Busy (Swap.Report Float)) := do
  let s ← cell.read
  s.cycleWith host cell entropy

/-- What a cycle that starts now would put on the vote. -/
def preview (host : Host m) (cell : Cell m Service) (stream : RandomStream) :
    m (Except Swap.PrepareError (Selection Float)) := do
  let s ← cell.read
  Swap.preview host (swapCell cell) s.input s.settings.swap stream

end

/-- What operators are told of a service. -/
structure Status where
  weightingVersion : Nat
  historySize : Nat
  latestRound : Option UInt64
  busy : Bool
  whitelist : Swap.WhitelistState
  metrics : Swap.Metrics

/-- What operators are told now. -/
def status (s : Service) : Status where
  weightingVersion := s.weighting.version
  historySize := s.tracker.history.size
  latestRound := s.tracker.history.latestIndex?
  busy := s.swap.busy
  whitelist := s.swap.whitelist
  metrics := s.metrics

/-- A status as a document. -/
def Status.toJson (s : Status) : Json := .object [
  ("weighting_version", .ofNat s.weightingVersion),
  ("history_len", .ofNat s.historySize),
  ("latest_round", .ofNat? (s.latestRound.map UInt64.toNat)),
  ("busy", .bool s.busy),
  ("whitelist", .string s.whitelist.name),
  ("metrics", s.metrics.toJson)]

end Service

end MapBallot
