import MapBallot.Remote.Call
import MapBallot.Selection.Basic

/-!
# `MapBallot.Swap.Outcome` — how a swap cycle ends

A cycle puts a selection on the vote in phases: it selects, takes a snapshot of the whitelist,
applies the selection, resets the vote, and restores the whitelist. Its outcome tells how far it
came and whether the whitelist is back.

## Contents

* `Phase`, `PrepareError`, `OutcomeKind`, `Outcome`, with their names and wordings;
* `WhitelistState` — whether the whitelist is back;
* `Outcome.event` — the log entry of an outcome.
-/

namespace MapBallot.Swap

open Remote (CallError)

variable {α : Type}

/-- The phases of a cycle. -/
inductive Phase
  | idle
  | selecting
  | snapshotting
  | applying
  | resetting
  | restoring
  deriving DecidableEq, Repr

/-- The name of a phase. -/
def Phase.name : Phase → String
  | .idle => "idle"
  | .selecting => "selecting"
  | .snapshotting => "snapshotting_whitelist"
  | .applying => "applying_computed_whitelist"
  | .resetting => "resetting_remote_state"
  | .restoring => "restoring_original_whitelist"

/-- Why nothing was selected. -/
inductive PrepareError
  | catalog (error : CallError)
  | settings (error : CallError)
  | whitelist (error : CallError)
  | choice (error : SelectionError)
  deriving DecidableEq, Repr

/-- The wording of a failed preparation. -/
def PrepareError.message : PrepareError → String
  | .catalog e => "failed to fetch layer catalog: " ++ e.message
  | .settings e => "failed to fetch votemap settings: " ++ e.message
  | .whitelist e => "failed to read the whitelist to select from: " ++ e.message
  | .choice e => e.message

/-- The ways in which a cycle ends. -/
inductive OutcomeKind
  | succeeded
  | selectionFailed
  | snapshotFailed
  | applyFailed
  | applyFailedUnrecovered
  | restoreFailedAfterSuccess
  deriving DecidableEq, Repr

namespace OutcomeKind

/-- Every way in which a cycle ends. -/
def all : List OutcomeKind :=
  [succeeded, selectionFailed, snapshotFailed, applyFailed, applyFailedUnrecovered,
    restoreFailedAfterSuccess]

/-- The name of an outcome. -/
def name : OutcomeKind → String
  | succeeded => "succeeded"
  | selectionFailed => "selection_failed"
  | snapshotFailed => "snapshot_failed"
  | applyFailed => "apply_failed"
  | applyFailedUnrecovered => "apply_failed_unrecovered"
  | restoreFailedAfterSuccess => "restore_failed_after_success"

/-- The whitelist may be away from what it was. -/
def isUnrecovered : OutcomeKind → Bool
  | applyFailedUnrecovered | restoreFailedAfterSuccess => true
  | _ => false

end OutcomeKind

/-- How a cycle ended. -/
inductive Outcome (α : Type)
  | succeeded (selection : Selection α)
  | selectionFailed (error : PrepareError)
  | snapshotFailed (error : CallError)
  /-- A step failed after the snapshot, and the whitelist was restored. -/
  | applyFailed (phase : Phase) (error : CallError)
  /-- A step failed after the snapshot, and so did restoring the whitelist. -/
  | applyFailedUnrecovered (phase : Phase) (error restoreError : CallError)
  /-- The selection is on the vote, but the whitelist was not restored. -/
  | restoreFailedAfterSuccess (selection : Selection α) (restoreError : CallError)

namespace Outcome

/-- The way in which the cycle ended. -/
def kind : Outcome α → OutcomeKind
  | succeeded _ => .succeeded
  | selectionFailed _ => .selectionFailed
  | snapshotFailed _ => .snapshotFailed
  | applyFailed _ _ => .applyFailed
  | applyFailedUnrecovered _ _ _ => .applyFailedUnrecovered
  | restoreFailedAfterSuccess _ _ => .restoreFailedAfterSuccess

/-- The selection that is on the vote. -/
def selection? : Outcome α → Option (Selection α)
  | succeeded selection | restoreFailedAfterSuccess selection _ => some selection
  | _ => none

/-- The wording of an outcome. -/
def message : Outcome α → String
  | succeeded selection =>
    "vote narrowed to " ++ toString selection.size ++ " layers and whitelist restored"
  | selectionFailed e => "selection failed: " ++ e.message
  | snapshotFailed e => "whitelist snapshot failed: " ++ e.message
  | applyFailed phase e =>
    phase.name ++ " failed (" ++ e.message ++ "); original whitelist restored"
  | applyFailedUnrecovered phase e restoreError =>
    phase.name ++ " failed (" ++ e.message ++
      ") and restoring the original whitelist also failed (" ++ restoreError.message ++
      "); the whitelist may still be narrowed"
  | restoreFailedAfterSuccess selection restoreError =>
    "vote narrowed to " ++ toString selection.size ++
      " layers but restoring the original whitelist failed (" ++ restoreError.message ++
      "); the whitelist is still narrowed"

end Outcome

/-- Whether the whitelist of the remote tool is what it was before any cycle. -/
inductive WhitelistState
  | baseline
  | narrowed
  deriving DecidableEq, Repr

/-- The name of a whitelist state. -/
def WhitelistState.name : WhitelistState → String
  | .baseline => "baseline"
  | .narrowed => "narrowed"

/-! ## The log -/

/-- The target of log entries about cycles. -/
def target : String := "votemap::swap"

/-- The target of log entries that ask for an operator. -/
def alertTarget : String := "votemap::alert"

/-- The ids of a selection, as log entries show them. -/
def shownIds (s : Selection α) : String := Text.showList (s.layerIds.map Text.quote)

/-- The log entry of the outcome of a cycle. -/
def Outcome.event (cycle : Nat) (o : Outcome α) : Event :=
  let message := "swap.outcome=" ++ o.kind.name
  let number := ("cycle", toString cycle)
  match o with
  | succeeded selection => ⟨.info, target, message, [number, ("layers", shownIds selection)]⟩
  | selectionFailed e => ⟨.warn, target, message, [number, ("error", e.message)]⟩
  | snapshotFailed e => ⟨.warn, target, message, [number, ("error", e.message)]⟩
  | applyFailed phase e =>
    ⟨.warn, target, message, [number, ("phase", phase.name), ("error", e.message)]⟩
  | applyFailedUnrecovered phase e restoreError =>
    ⟨.error, alertTarget, message, [number, ("phase", phase.name), ("error", e.message),
      ("restore_error", restoreError.message)]⟩
  | restoreFailedAfterSuccess selection restoreError =>
    ⟨.error, alertTarget, message, [number, ("layers", shownIds selection),
      ("restore_error", restoreError.message)]⟩

end MapBallot.Swap
