import MapBallot.Event
import MapBallot.History.Basic

/-!
# `MapBallot.History.Tracker` — recording rounds as they start

A tracker keeps the newest rounds it was told of. Rounds must come in order: a round that is not
newer than the newest recorded one is refused and changes nothing.

## Contents

* `RecordOutcome` — what became of a round;
* `Tracker`, `Tracker.withRetention`, `Tracker.recordPlay`;
* `Tracker.recordEvent` — the log entry of a recording.
-/

namespace MapBallot

/-- What became of a round that was to be recorded. -/
inductive RecordOutcome
  | appended
  /-- The round is the newest recorded one. -/
  | duplicate
  /-- The round is older than the newest recorded one. -/
  | outOfOrder (latest : UInt64)
  deriving DecidableEq, Repr

/-- The newest rounds. -/
structure Tracker where
  retention : Nat
  history : History := .empty
  retention_pos : 0 < retention

namespace Tracker

/-- How many rounds are kept unless told otherwise. -/
def defaultRetention : Nat := 10

/-- A tracker of the newest `retention` rounds, and at least of one. -/
def withRetention (retention : Nat) : Tracker where
  retention := max retention 1
  retention_pos := Nat.lt_of_lt_of_le Nat.zero_lt_one (Nat.le_max_right _ _)

instance : Inhabited Tracker := ⟨withRetention defaultRetention⟩

/-- Whether a round may follow the recorded ones. -/
def judge (t : Tracker) (play : Play) : RecordOutcome :=
  match t.history.latestIndex? with
  | none => .appended
  | some latest =>
    if play.roundIndex = latest then .duplicate
    else if play.roundIndex < latest then .outOfOrder latest
    else .appended

/-- Records a round after the newest one. -/
def recordPlay (t : Tracker) (play : Play) : RecordOutcome × Tracker :=
  match t.judge play with
  | .appended =>
    (.appended, { t with history := .ofRecent (t.history.plays ++ [play]) t.retention })
  | outcome => (outcome, t)

/-- The log entry of a recording. -/
def recordEvent (t : Tracker) (play : Play) : Event :=
  let shared := [("map", play.map), ("environment", play.environment.name),
    ("round_index", toString play.roundIndex.toNat)]
  match t.recordPlay play with
  | (.appended, t) =>
    ⟨.info, "votemap::history", "history.recorded", shared ++ [("len", toString t.history.size)]⟩
  | (_, t) =>
    let latest := (t.history.latestIndex?.getD 0).toNat
    ⟨.warn, "votemap::history", "history.record_rejected", shared ++ [("latest", toString latest)]⟩

end Tracker

end MapBallot
