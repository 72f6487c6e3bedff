import MapBallot.Service.Basic

/-!
# `MapBallot.Service.Dispatch` — from rounds to cycles

Rounds wait in a queue to be recorded. A recorded round leaves a trigger for a cycle; the trigger
has one place, so rounds that are recorded while one waits share a cycle. Cycles are run one after
the other by a single worker, and the cycle of a trigger sees every round recorded before it starts.

## Contents

* `Pending` — rounds that wait, and the trigger;
* `Pending.takeRound`, `Pending.leaveTrigger`, `Pending.takeTrigger` — the two channels;
* `Service.dispatchNext`, `Service.dispatchAll` — recording the next round, and all of them;
* `Service.Served`, `Service.serveTrigger` — what the worker does about a trigger;
* the log entries of all three.
-/

namespace MapBallot

open Remote (Host)
open Swap (Cell)

/-- Rounds that wait to be recorded, and whether a cycle is wanted. -/
structure Pending where
  rounds : List RoundStart := []
  trigger : Bool := false

namespace Pending

/-- One more round that waits. -/
def push (p : Pending) (e : RoundStart) : Pending := { p with rounds := p.rounds ++ [e] }

/-- Takes the round that waits longest, if there is one. -/
def takeRound (p : Pending) : Option (RoundStart × Pending) :=
  match p.rounds with
  | [] => none
  | e :: rounds => some (e, { p with rounds := rounds })

/-- Leaves a trigger; where one waits already, the two are one. -/
def leaveTrigger (p : Pending) : Pending := { p with trigger := true }

/-- Takes the trigger, if there is one. -/
def takeTrigger (p : Pending) : Option Pending :=
  if p.trigger then some { p with trigger := false } else none

end Pending

namespace Service

/-- The target of log entries about the service itself. -/
def serverTarget : String := "votemap::server"

/-- A round that was appended wants a cycle. -/
def wantsCycle (s : Service) (outcome : RecordOutcome) : Bool :=
  outcome = .appended && s.settings.runOnRoundStart

/-- Records the next waiting round, and leaves a trigger if it wants a cycle. -/
def dispatchNext (s : Service) (p : Pending) (now : Instant) : Option (Service × Pending) :=
  match p.takeRound with
  | none => none
  | some (e, p) =>
    let (outcome, s) := s.recordRound e now
    some (s, if s.wantsCycle outcome then p.leaveTrigger else p)

/-- The log of recording the next waiting round. -/
def dispatchEvents (s : Service) (p : Pending) (now : Instant) : List Event :=
  match p.rounds with
  | [] => []
  | e :: _ =>
    let wanted := s.wantsCycle (s.recordRound e now).1
    s.tracker.recordEvent (e.play now) ::
      if wanted && p.trigger then
        [⟨.debug, serverTarget, "swap.trigger_coalesced",
          [("round_index", toString e.roundIndex.toNat)]⟩]
      else []

/-- Records all waiting rounds, one after the other. -/
def dispatchAll (s : Service) (p : Pending) (now : Instant) : Service × Pending × List Event :=
  p.rounds.foldl
    (fun (s, p, log) _ =>
      match s.dispatchNext p now with
      | none => (s, p, log)
      | some (next, rest) => (next, rest, log ++ s.dispatchEvents p now))
    (s, p, [])

/-- What became of a trigger that the worker took. -/
inductive Served
  /-- A shutdown was asked for, and the worker stops. -/
  | stopped
  /-- A cycle was in progress. -/
  | skipped
  | reported (report : Swap.Report Float)

/-- The log entry of a trigger that found a cycle in progress. -/
def skippedEvent (e : Swap.Busy) : Event :=
  ⟨.warn, serverTarget, "swap.trigger_skipped", [("error", e.message)]⟩

/-- Runs a cycle for a trigger, unless a shutdown was asked for. -/
def serveTrigger {m : Type → Type} [Monad m] (host : Host m) (cell : Cell m Service)
    (entropy : RandomStream) : m Served := do
  if ← host.poll then pure .stopped
  else
    match ← runCycle host cell entropy with
    | .error e =>
      host.log [skippedEvent e]
      pure .skipped
    | .ok report => pure (.reported report)

/-- The log entry of a started service. -/
def startedEvent (s : Service) : Event :=
  ⟨.info, serverTarget, "service.started",
    [("run_on_round_start", toString s.settings.runOnRoundStart)]⟩

end Service

end MapBallot
