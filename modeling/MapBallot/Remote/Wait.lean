import MapBallot.Remote.Program

/-!
# `MapBallot.Remote.Wait` — waiting with an eye on the shutdown

A wait sleeps in short spans. Before each of them it looks whether a shutdown was asked for, and then
at the clock. So it looks at least once, even if there is nothing to wait for.

## Contents

* `pollInterval` — the longest span;
* `Timer` — what a wait uses; `Timer.waitUntil`, `Timer.wait` — waiting.
-/

namespace MapBallot.Remote

/-- The number of nanoseconds in a millisecond. -/
def nanosPerMilli : Nat := 1000000

/-- How long a wait sleeps at most before it looks again, in nanoseconds. -/
def pollInterval : Nat := 50 * nanosPerMilli

/-- What a wait uses. Time is counted in nanoseconds. -/
structure Timer (m : Type → Type) where
  /-- Whether a shutdown was asked for. -/
  raised : m Bool
  now : m Nat
  /-- Sleeps for a span, and not shorter. -/
  sleep : Nat → m Unit

namespace Timer

variable {m : Type → Type} [Monad m]

/-- Waits for a deadline, and tells whether a shutdown was asked for, which ends the wait. The clock has
reached the moment `reached`, and does not go back. -/
def waitUntil (timer : Timer m) (deadline reached : Nat) : m Bool := do
  if ← timer.raised then pure true
  else
    let reading ← timer.now
    let now := max reached reading
    if deadline ≤ now then pure false
    else
      let span := min pollInterval (deadline - now)
      timer.sleep span
      timer.waitUntil deadline (now + span)
termination_by deadline - reached
decreasing_by
  have : 0 < pollInterval := by decide
  omega

/-- Waits for some milliseconds, and tells whether a shutdown was asked for meanwhile. -/
def wait (timer : Timer m) (millis : UInt64) : m Bool := do
  let start ← timer.now
  timer.waitUntil (start + millis.toNat * nanosPerMilli) start

end Timer

end MapBallot.Remote
