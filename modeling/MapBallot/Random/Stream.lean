/-!
# `MapBallot.Random.Stream` — random words in the order in which they are taken

Draws take one 64-bit word after another. A random source is an endless sequence of words together
with the number of words already taken, so what a draw takes is a matter of positions.

## Contents

* `RandomStream`, `RandomStream.next`.
-/

namespace MapBallot

/-- An endless sequence of random words, and how many of them were taken. -/
structure RandomStream where
  word : Nat → UInt64
  taken : Nat := 0

namespace RandomStream

/-- The next word. -/
def next (s : RandomStream) : UInt64 × RandomStream :=
  (s.word s.taken, { s with taken := s.taken + 1 })

/-- The stream after `n` more words. -/
def skip (s : RandomStream) (n : Nat) : RandomStream := { s with taken := s.taken + n }

theorem skip_skip (s : RandomStream) (m n : Nat) : (s.skip m).skip n = s.skip (m + n) := by
  simp [skip, Nat.add_assoc]

end RandomStream

end MapBallot
