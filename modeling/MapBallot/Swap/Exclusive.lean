import MapBallot.Swap.State

/-!
# `MapBallot.Swap.Exclusive` — running cycles one at a time

The state of the cycles is shared by everybody who may start one, so a cycle reads and writes it in
steps of their own: it enters, makes its calls, keeps what it could not restore, and leaves.

## Contents

* `Cell` — a shared value;
* `runExclusive` — a cycle, unless one is in progress;
* `preview` — what a cycle would put on the vote.
-/

namespace MapBallot.Swap

open Remote (Host Program)

/-- A shared value. -/
structure Cell (m : Type → Type) [Monad m] (σ : Type) where
  read : m σ
  write : σ → m Unit
  /-- Replaces the value by one that is made from it, and gives the old one. Where others use the
  value at the same time, this is one step. -/
  exchange : (σ → σ) → m σ := fun f => do
    let s ← read
    write (f s)
    pure s

namespace Cell

variable {m : Type → Type} [Monad m] {σ τ : Type}

/-- Replaces the value by one that is made from it. -/
def update (cell : Cell m σ) (f : σ → σ) : m Unit := do
  let _ ← cell.exchange f
  pure ()

/-- The part of a shared value that `part` gives and `replace` puts back. -/
def focus (cell : Cell m σ) (part : σ → τ) (replace : σ → τ → σ) : Cell m τ where
  read := part <$> cell.read
  write t := cell.update fun s => replace s t
  exchange f := part <$> cell.exchange fun s => replace s (f (part s))

end Cell

variable {α : Type} [Scalar α] {m : Type → Type} [Monad m]

/-- Runs a cycle, unless one is in progress. -/
def runExclusive (host : Host m) (cell : Cell m State) (input : Input α) (settings : Settings)
    (stream : RandomStream) : m (Except Busy (Report α)) := do
  match (← cell.exchange State.entered).enter with
  | .error e => pure (.error e)
  | .ok state =>
    let cycle := state.started
    let ending ← (run cycle input settings state.retained stream).runOn host
    cell.update fun s => s.remember ending.outcome.kind ending.baseline
    let state ← cell.read
    host.log [ending.outcome.event cycle]
    cell.update State.leave
    pure (.ok ⟨cycle, input.roundIndex, input.parametersVersion, ending.outcome, state.whitelist⟩)

/-- What a cycle would put on the vote. It only reads from the remote tool. -/
def preview (host : Host m) (cell : Cell m State) (input : Input α) (settings : Settings)
    (stream : RandomStream) : m (Except PrepareError (Selection α)) := do
  let state ← cell.read
  let (result, _) ← (prepare input settings state.retained stream).runOn host
  pure result

end MapBallot.Swap
