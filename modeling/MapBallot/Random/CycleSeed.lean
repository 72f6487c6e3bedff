/-!
# `MapBallot.Random.CycleSeed` — the seed of each cycle

Each cycle draws from a seed of its own that depends on the configured seed and on the round the
cycle belongs to, so that a run with a configured seed can be repeated. The two are mixed by the
hash of Fowler, Noll and Vo, which works on one byte after the other.

## Contents

* `Fnv.start`, `Fnv.step`, `Fnv.write` — the hash;
* `bytesOfWord` — the bytes of a word, the lowest first;
* `cycleSeed` — the seed of a cycle.
-/

namespace MapBallot

namespace Fnv

/-- The state before any byte. -/
def start : UInt64 := 0xcbf29ce484222325

/-- The factor of every step. -/
def prime : UInt64 := 0x100000001b3

/-- Mixes one byte into the state. -/
def step (state : UInt64) (byte : UInt8) : UInt64 := (state ^^^ byte.toUInt64) * prime

/-- Mixes bytes into the state, one after the other. -/
def write (state : UInt64) (bytes : List UInt8) : UInt64 := bytes.foldl step state

end Fnv

/-- The eight bytes of a word, the lowest first. -/
def bytesOfWord (w : UInt64) : List UInt8 :=
  [(0 : UInt64), 8, 16, 24, 32, 40, 48, 56].map fun shift => (w >>> shift).toUInt8

/-- What is hashed for a cycle: the configured seed, then a mark that tells whether there was a
round, then its index. -/
def cycleBytes (seed : UInt64) : Option UInt64 → List UInt8
  | none => bytesOfWord seed ++ [0]
  | some round => bytesOfWord seed ++ 1 :: bytesOfWord round

/-- The seed of a cycle after a round. -/
def cycleSeed (seed : UInt64) (round : Option UInt64) : UInt64 :=
  Fnv.write Fnv.start (cycleBytes seed round)

end MapBallot
