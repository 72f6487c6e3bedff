import MapBallot.Event
import MapBallot.Remote.Call

/-!
# `MapBallot.Remote.Program` — what is done with the remote tool, step by step

A program is a run of steps whose course depends on what the remote tool answers and on whether a
shutdown was asked for. It is a value: it can be followed through every answer without a remote
tool, and it can be run by anything that makes calls.

## Contents

* `Program` — the steps, and the monad of programs;
* `Host`, `Program.runOn` — what carries out steps, and running a program on it.
-/

namespace MapBallot.Remote

variable {β γ : Type}

/-- A run of steps with the remote tool that ends with a value. -/
inductive Program (β : Type) : Type
  /-- The end of the run. -/
  | done (value : β)
  /-- Makes a call and goes on with its answer. -/
  | call (c : Call) (next : c.Answer → Program β)
  /-- Asks whether a shutdown was asked for. -/
  | poll (next : Bool → Program β)
  /-- Lets the remote tool settle for some milliseconds, and tells whether a shutdown was asked for
  meanwhile. It cuts the wait short. -/
  | settle (millis : UInt64) (next : Bool → Program β)
  /-- Writes log entries. -/
  | log (entries : List Event) (next : Program β)

namespace Program

/-- Goes on with another program after the end of this one. -/
def andThen : Program β → (β → Program γ) → Program γ
  | done value, f => f value
  | call c next, f => call c fun answer => (next answer).andThen f
  | poll next, f => poll fun raised => (next raised).andThen f
  | settle millis next, f => settle millis fun raised => (next raised).andThen f
  | log entries next, f => log entries (next.andThen f)

instance : Monad Program where
  pure := done
  bind := andThen

/-- Makes a call. -/
def request (c : Call) : Program c.Answer := call c done

/-- Asks whether a shutdown was asked for. -/
def shutdownRaised : Program Bool := poll done

/-- Lets the remote tool settle. -/
def settleFor (millis : UInt64) : Program Bool := settle millis done

/-- Writes log entries. -/
def write (entries : List Event) : Program Unit := log entries (done ())

end Program

/-- What carries out the steps of programs. -/
structure Host (m : Type → Type) where
  call : (c : Call) → m c.Answer
  poll : m Bool
  settle : UInt64 → m Bool
  log : List Event → m Unit

/-- Runs a program, step by step. -/
def Program.runOn {m : Type → Type} [Monad m] (host : Host m) : Program β → m β
  | .done value => pure value
  | .call c next => do
    let answer ← host.call c
    (next answer).runOn host
  | .poll next => do
    let raised ← host.poll
    (next raised).runOn host
  | .settle millis next => do
    let raised ← host.settle millis
    (next raised).runOn host
  | .log entries next => do
    host.log entries
    next.runOn host

end MapBallot.Remote
