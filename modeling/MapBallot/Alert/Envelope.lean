import MapBallot.Swap.State

/-!
# `MapBallot.Alert.Envelope` — what operators are told of a cycle

Every report goes out as an alert. Its severity says whether somebody has to act.

## Contents

* `Severity`, `Severity.ofOutcome`;
* `Envelope`, `Envelope.ofReport`, `Envelope.toJson`.
-/

namespace MapBallot.Alert

open Swap (OutcomeKind WhitelistState Report)

variable {α : Type}

/-- How urgent an alert is. -/
inductive Severity
  | info
  | warn
  | critical
  deriving DecidableEq, Repr

/-- The name of a severity. -/
def Severity.name : Severity → String
  | .info => "info"
  | .warn => "warn"
  | .critical => "critical"

/-- A whitelist that may be away from what it was is critical; any other failure is a warning. -/
def Severity.ofOutcome : OutcomeKind → Severity
  | .succeeded => .info
  | .selectionFailed | .snapshotFailed | .applyFailed => .warn
  | .applyFailedUnrecovered | .restoreFailedAfterSuccess => .critical

/-- An alert. -/
structure Envelope where
  severity : Severity
  outcome : OutcomeKind
  cycle : Nat
  roundIndex : Option Nat
  parametersVersion : Nat
  whitelist : WhitelistState
  message : String
  layers : List String
  deriving DecidableEq, Repr

namespace Envelope

/-- The alert of a report. -/
def ofReport (r : Report α) : Envelope where
  severity := .ofOutcome r.outcome.kind
  outcome := r.outcome.kind
  cycle := r.cycle
  roundIndex := r.roundIndex.map UInt64.toNat
  parametersVersion := r.parametersVersion
  whitelist := r.whitelist
  message := r.outcome.message
  layers := r.outcome.selection?.elim [] Selection.layerIds

/-- The members of a written alert. The layers are left out when there are none. -/
def toMembers (e : Envelope) : List (String × Json) := [
    ("severity", .string e.severity.name),
    ("outcome", .string e.outcome.name),
    ("cycle", .ofNat e.cycle),
    ("round_index", .ofNat? e.roundIndex),
    ("parameters_version", .ofNat e.parametersVersion),
    ("whitelist", .string e.whitelist.name),
    ("message", .string e.message)] ++
  if e.layers.isEmpty then [] else [("layers", .ofStrings e.layers)]

/-- An alert as a document. -/
def toJson (e : Envelope) : Json := .object e.toMembers

end Envelope

end MapBallot.Alert
