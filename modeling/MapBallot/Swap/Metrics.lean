import MapBallot.Swap.State

/-!
# `MapBallot.Swap.Metrics` — the running tally of cycles
-/

namespace MapBallot.Swap

variable {α : Type}

/-- The tally of the cycles so far. -/
structure Metrics where
  cycles : Nat := 0
  /-- How many cycles ended in each way. -/
  outcomes : OutcomeKind → Nat := fun _ => 0
  lastCycle : Option Nat := none
  lastOutcome : Option OutcomeKind := none
  /-- The round of the last cycle that belonged to one. -/
  lastRoundIndex : Option UInt64 := none
  whitelist : WhitelistState := .baseline

namespace Metrics

/-- The tally before any cycle. -/
def none : Metrics := {}

instance : Inhabited Metrics := ⟨none⟩

/-- The tally with one more cycle. -/
def observe (m : Metrics) (r : Report α) : Metrics where
  cycles := m.cycles + 1
  outcomes k := m.outcomes k + if k = r.outcome.kind then 1 else 0
  lastCycle := some r.cycle
  lastOutcome := some r.outcome.kind
  lastRoundIndex := r.roundIndex <|> m.lastRoundIndex
  whitelist := r.whitelist

/-- The outcomes that occurred, with how often. -/
def occurred (m : Metrics) : List (OutcomeKind × Nat) :=
  (OutcomeKind.all.map fun k => (k, m.outcomes k)).filter fun (_, n) => n != 0

/-- A tally as a document. -/
def toJson (m : Metrics) : Json := .object [
  ("cycles", .ofNat m.cycles),
  ("outcomes", .object (m.occurred.map fun (k, n) => (k.name, .ofNat n))),
  ("last_cycle", .ofNat? m.lastCycle),
  ("last_outcome", .ofString? (m.lastOutcome.map OutcomeKind.name)),
  ("last_round_index", .ofNat? (m.lastRoundIndex.map UInt64.toNat)),
  ("whitelist", .string m.whitelist.name)]

end Metrics

end MapBallot.Swap
