import MapBallot.Swap.Cycle

/-!
# `MapBallot.Swap.State` — what is kept from one cycle to the next

Cycles exclude each other: a cycle must enter before it does anything, and while one is inside no
other may. They are numbered as they enter. A cycle that could not put the whitelist back leaves the
snapshot to those that follow.

## Contents

* `State`, `State.enter`, `State.entered`, `State.remember`, `State.leave`;
* `State.whitelist` — whether the whitelist is believed to be back;
* `Report` — what is told of a cycle;
* `Busy` — why a cycle did not start.
-/

namespace MapBallot.Swap

open Remote (Whitelist)

variable {α : Type}

/-- What is kept from one cycle to the next. -/
structure State where
  /-- A cycle is in progress. -/
  busy : Bool := false
  /-- How many cycles were started. -/
  started : Nat := 0
  /-- The whitelist that an earlier cycle could not restore. -/
  retained : Option Whitelist := none
  deriving DecidableEq, Repr, Inhabited

/-- A cycle is already in progress. -/
inductive Busy
  | busy
  deriving DecidableEq, Repr

/-- The wording of a refused start. -/
def Busy.message : Busy → String
  | .busy => "a swap cycle is already in progress"

/-- What is told of a cycle. -/
structure Report (α : Type) where
  cycle : Nat
  roundIndex : Option UInt64
  parametersVersion : Nat
  outcome : Outcome α
  whitelist : WhitelistState

namespace State

/-- Starts a cycle, unless one is in progress. -/
def enter (s : State) : Except Busy State :=
  if s.busy then .error .busy else .ok { s with busy := true, started := s.started + 1 }

/-- The state after an attempt to start a cycle. -/
def entered (s : State) : State :=
  match s.enter with
  | .ok s => s
  | .error _ => s

theorem enter_busy {s : State} (h : s.busy = true) : s.enter = .error .busy := by
  rw [enter, if_pos h]

theorem enter_idle {s : State} (h : s.busy = false) :
    s.enter = .ok { s with busy := true, started := s.started + 1 } := by
  rw [enter, if_neg (by simp [h])]

theorem entered_idle {s : State} (h : s.busy = false) :
    s.entered = { s with busy := true, started := s.started + 1 } := by
  unfold entered
  rw [enter_idle h]

theorem entered_busy {s : State} (h : s.busy = true) : s.entered = s := by
  unfold entered
  rw [enter_busy h]

/-- Entering leaves alone what is retained. -/
theorem entered_retained (s : State) : s.entered.retained = s.retained := by
  unfold entered enter
  by_cases busy : s.busy = true
  · rw [if_pos busy]
  · rw [if_neg busy]

/-- The whitelist that later cycles have to restore after an outcome. -/
def retainedAfter (retained : Option Whitelist) (kind : OutcomeKind) (baseline : Option Whitelist) :
    Option Whitelist :=
  match kind with
  | .succeeded | .applyFailed => none
  | .applyFailedUnrecovered | .restoreFailedAfterSuccess => baseline
  | .selectionFailed | .snapshotFailed => retained

/-- Keeps what a cycle could not restore. -/
def remember (s : State) (kind : OutcomeKind) (baseline : Option Whitelist) : State :=
  { s with retained := retainedAfter s.retained kind baseline }

/-- Ends a cycle. -/
def leave (s : State) : State := { s with busy := false }

/-- Whether the whitelist is believed to be back. -/
def whitelist (s : State) : WhitelistState := if s.retained.isSome then .narrowed else .baseline

theorem whitelist_eq_baseline {s : State} : s.whitelist = .baseline ↔ s.retained = none := by
  unfold whitelist
  cases s.retained with
  | none => exact ⟨fun _ => rfl, fun _ => rfl⟩
  | some w =>
    constructor
    · rintro ⟨⟩
    · rintro ⟨⟩

end State

end MapBallot.Swap
