import MapBallot.Remote.Program
import MapBallot.Swap.Outcome

/-!
# `MapBallot.Swap.Cycle` — narrowing the vote and putting the whitelist back

The remote tool cannot offer an arbitrary set of options. A cycle therefore narrows its whitelist to
a selection, has the vote drawn up anew, and puts the whitelist back. Selecting only reads from the
remote tool. A failure after the snapshot is followed by exactly one attempt to restore; nothing is
tried again. A shutdown stops the steps forward, never the restore.

A cycle that could not put the whitelist back keeps its snapshot. Later cycles select within that
baseline and restore to it, until a restore succeeds.

## Contents

* `Settings`, `Input` — what a cycle goes by;
* `prepare` — reading from the remote tool and selecting;
* `run` — a cycle, from its first phase to its `Ending`.
-/

namespace MapBallot.Swap

open Remote (Call CallError Program Whitelist)
open Weighting (Parameters)

variable {α : Type} [Scalar α]

/-- How cycles are run. -/
structure Settings where
  plan : Plan := .standard
  policy : Policy := .default
  /-- How long to wait after the selection was applied, and again before it is taken back. -/
  stepDelay : UInt64 := 2000
  /-- The remote tool's settings give the plan and the exclusion rules. -/
  useRemoteSettings : Bool := true

/-- What a cycle finds at its start. -/
structure Input (α : Type) where
  parameters : Parameters α
  parametersVersion : Nat
  history : History
  roundIndex : Option UInt64

/-- Whether the options that were applied, what to restore, and the random words that are left. -/
structure Ending (α : Type) where
  outcome : Outcome α
  /-- The whitelist to restore, once it is known. -/
  baseline : Option Whitelist
  stream : RandomStream

/-- The layers of a catalog that a whitelist lists. -/
def withinWhitelist (catalog : List Layer) (w : Whitelist) : List Layer :=
  catalog.filter fun l => w.layerIds.contains l.id

/-- The log entry about layers that the whitelist does not list. -/
def limitedEvents (catalog : List Layer) (w : Whitelist) : List Event :=
  let offered := withinWhitelist catalog w
  if offered.length < catalog.length then
    [⟨.debug, target, "swap.catalog_limited_to_whitelist",
      [("catalog", toString catalog.length), ("whitelisted", toString offered.length)]⟩]
  else []

/-- The log entry of a phase. -/
def phaseEvent (cycle : Nat) (phase : Phase) : Event :=
  ⟨.info, target, "swap.phase", [("cycle", toString cycle), ("phase", phase.name)]⟩

/-- The plan and the policy to select by. -/
def guidelines (settings : Settings) : Program (Except CallError (Plan × Policy)) :=
  if settings.useRemoteSettings then
    .call .settings fun
      | .error e => pure (.error e)
      | .ok (remote : Remote.Settings) =>
        pure (.ok (remote.plan, { settings.policy with exclusions := .ofSettings remote }))
  else pure (.ok (settings.plan, settings.policy))

/-- The whitelist to select from or to restore: the retained one, or else that of the remote tool.
-/
def baseline (retained : Option Whitelist) : Program (Except CallError Whitelist) :=
  match retained with
  | some w => pure (.ok w)
  | none => .request .getWhitelist

/-- Draws from the layers that the whitelist lists. -/
def choose (input : Input α) (catalog : List Layer) (w : Whitelist) (plan : Plan) (policy : Policy)
    (stream : RandomStream) : Program (Except PrepareError (Selection α) × RandomStream) := do
  let offered := withinWhitelist catalog w
  let (result, stream) := selectPlan input.parameters input.history offered plan policy stream
  .write (limitedEvents catalog w ++
    selectPlanEvents input.parameters input.history offered plan policy result)
  match result with
  | .ok selection => pure (.ok selection, stream)
  | .error e => pure (.error (.choice e), stream)

/-- Reads the settings and the whitelist, in this order, and draws from a catalog. -/
def selectFrom (input : Input α) (settings : Settings) (retained : Option Whitelist)
    (catalog : List Layer) (stream : RandomStream) :
    Program (Except PrepareError (Selection α) × RandomStream) := do
  match ← guidelines settings with
  | .error e => pure (.error (.settings e), stream)
  | .ok (plan, policy) =>
    match ← baseline retained with
    | .error e => pure (.error (.whitelist e), stream)
    | .ok w => choose input catalog w plan policy stream

/-- Reads the catalog and, if it lists a layer, selects from it. -/
def prepare (input : Input α) (settings : Settings) (retained : Option Whitelist)
    (stream : RandomStream) : Program (Except PrepareError (Selection α) × RandomStream) := do
  match ← Program.request .catalog with
  | .error e => pure (.error (.catalog e), stream)
  | .ok catalog =>
    if List.isEmpty catalog then pure (.error (.choice .emptyCatalog), stream)
    else selectFrom input settings retained catalog stream

/-- Restores the whitelist after a failed step. -/
def compensate (cycle : Nat) (snapshot : Whitelist) (phase : Phase) (e : CallError) :
    Program (Outcome α) := do
  .write [⟨.warn, target, "swap.compensating_restore",
      [("cycle", toString cycle), ("phase", phase.name), ("error", e.message)]⟩,
    phaseEvent cycle .restoring]
  match ← Program.request (.setWhitelist snapshot.layerIds) with
  | .ok _ => pure (.applyFailed phase e)
  | .error restoreError => pure (.applyFailedUnrecovered phase e restoreError)

/-- Makes a call unless a shutdown was asked for. -/
def unlessRaised (raised : Bool) (c : Call) : Program c.Answer :=
  if raised then pure (.error .interrupted) else .request c

/-- Lets the vote settle and restores the whitelist after the vote was drawn up anew. -/
def conclude (cycle : Nat) (settings : Settings) (selection : Selection α) (snapshot : Whitelist) :
    Program (Outcome α) := do
  let _ ← Program.settleFor settings.stepDelay
  .write [phaseEvent cycle .restoring]
  match ← Program.request (.setWhitelist snapshot.layerIds) with
  | .ok _ => pure (.succeeded selection)
  | .error e => pure (.restoreFailedAfterSuccess selection e)

/-- Resets the vote after a selection was applied, and restores the whitelist. -/
def resetVote (cycle : Nat) (settings : Settings) (selection : Selection α)
    (snapshot : Whitelist) : Program (Outcome α) := do
  .write [phaseEvent cycle .resetting]
  match ← unlessRaised (← Program.settleFor settings.stepDelay) .reset with
  | .error e => compensate cycle snapshot .resetting e
  | .ok _ => conclude cycle settings selection snapshot

/-- Applies a selection, resets the vote, and restores the whitelist. -/
def swap (cycle : Nat) (settings : Settings) (selection : Selection α) (snapshot : Whitelist) :
    Program (Outcome α) := do
  .write [phaseEvent cycle .applying]
  match ← unlessRaised (← Program.shutdownRaised) (.setWhitelist selection.layerIds) with
  | .error e => compensate cycle snapshot .applying e
  | .ok _ => resetVote cycle settings selection snapshot

/-- The log entry about a snapshot that an earlier cycle kept. -/
def reusedEvents (cycle : Nat) (retained : Option Whitelist) : List Event :=
  retained.toList.map fun w =>
    ⟨.warn, target, "swap.snapshot_reused_from_unrecovered_cycle",
      [("cycle", toString cycle), ("layers", toString w.size)]⟩

/-- Runs a cycle. -/
def run (cycle : Nat) (input : Input α) (settings : Settings) (retained : Option Whitelist)
    (stream : RandomStream) : Program (Ending α) := do
  .write [phaseEvent cycle .selecting]
  match ← prepare input settings retained stream with
  | (.error e, stream) => pure ⟨.selectionFailed e, none, stream⟩
  | (.ok selection, stream) =>
    .write (phaseEvent cycle .snapshotting :: reusedEvents cycle retained)
    match ← baseline retained with
    | .error e => pure ⟨.snapshotFailed e, none, stream⟩
    | .ok snapshot =>
      let outcome ← swap cycle settings selection snapshot
      pure ⟨outcome, some snapshot, stream⟩

end MapBallot.Swap
