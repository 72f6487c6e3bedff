import MapBallot.Random.Stream

/-!
# `MapBallot.Random.ChaCha` — random words from a seed

The words come from the ChaCha stream cipher with eight rounds: each block of sixteen 32-bit words
depends on the key and on its number alone. A 64-bit word is two of them, the low half first. The
key is expanded from a 64-bit seed by a linear congruential generator with permuted output.

## Contents

* `quarterRound`, `doubleRound`, `block` — the cipher;
* `expand`, `Key.ofSeed` — the key of a seed;
* `RandomStream.ofSeed` — the words of a seed.
-/

namespace MapBallot.ChaCha

/-- Rotates the bits of a word to the left. -/
def rotateLeft (x : UInt32) (n : UInt32) : UInt32 := (x <<< n) ||| (x >>> (32 - n))

/-- Rotates the bits of a word to the right. -/
def rotateRight (x : UInt32) (n : UInt32) : UInt32 :=
  if n == 0 then x else (x >>> n) ||| (x <<< (32 - n))

/-- Four words of the state, stirred. -/
def quarterRound (a b c d : UInt32) : UInt32 × UInt32 × UInt32 × UInt32 :=
  let a := a + b
  let d := rotateLeft (d ^^^ a) 16
  let c := c + d
  let b := rotateLeft (b ^^^ c) 12
  let a := a + b
  let d := rotateLeft (d ^^^ a) 8
  let c := c + d
  let b := rotateLeft (b ^^^ c) 7
  (a, b, c, d)

/-- The sixteen words of a state, in rows of four. -/
structure State where
  (x0 x1 x2 x3 : UInt32)
  (x4 x5 x6 x7 : UInt32)
  (x8 x9 x10 x11 : UInt32)
  (x12 x13 x14 x15 : UInt32)

/-- Stirs the columns of the state, then its diagonals. -/
def State.doubleRound (s : State) : State :=
  let (x0, x4, x8, x12) := quarterRound s.x0 s.x4 s.x8 s.x12
  let (x1, x5, x9, x13) := quarterRound s.x1 s.x5 s.x9 s.x13
  let (x2, x6, x10, x14) := quarterRound s.x2 s.x6 s.x10 s.x14
  let (x3, x7, x11, x15) := quarterRound s.x3 s.x7 s.x11 s.x15
  let (x0, x5, x10, x15) := quarterRound x0 x5 x10 x15
  let (x1, x6, x11, x12) := quarterRound x1 x6 x11 x12
  let (x2, x7, x8, x13) := quarterRound x2 x7 x8 x13
  let (x3, x4, x9, x14) := quarterRound x3 x4 x9 x14
  ⟨x0, x1, x2, x3, x4, x5, x6, x7, x8, x9, x10, x11, x12, x13, x14, x15⟩

/-- The sums of the words of two states. -/
def State.add (s t : State) : List UInt32 := [
  s.x0 + t.x0, s.x1 + t.x1, s.x2 + t.x2, s.x3 + t.x3,
  s.x4 + t.x4, s.x5 + t.x5, s.x6 + t.x6, s.x7 + t.x7,
  s.x8 + t.x8, s.x9 + t.x9, s.x10 + t.x10, s.x11 + t.x11,
  s.x12 + t.x12, s.x13 + t.x13, s.x14 + t.x14, s.x15 + t.x15]

/-- A key of eight words. -/
structure Key where
  (k0 k1 k2 k3 k4 k5 k6 k7 : UInt32)
  deriving Inhabited

/-- The state before the rounds: four constants, the key, the number of the block in two words with
the low one first, and a stream number that is always zero. -/
def Key.state (k : Key) (number : UInt64) : State where
  x0 := 0x61707865
  x1 := 0x3320646E
  x2 := 0x79622D32
  x3 := 0x6B206574
  x4 := k.k0
  x5 := k.k1
  x6 := k.k2
  x7 := k.k3
  x8 := k.k4
  x9 := k.k5
  x10 := k.k6
  x11 := k.k7
  x12 := number.toUInt32
  x13 := (number >>> 32).toUInt32
  x14 := 0
  x15 := 0

/-- The words of a block: four double rounds, added to the state before them. -/
def Key.block (k : Key) (number : UInt64) : List UInt32 :=
  let start := k.state number
  start.doubleRound.doubleRound.doubleRound.doubleRound.add start

/-- One 64-bit word of the stream of a key: eight to a block, each with its low half first. -/
def Key.word (k : Key) (n : Nat) : UInt64 :=
  let words := k.block (n / 8).toUInt64
  let i := n % 8 * 2
  (words.getD i 0).toUInt64 ||| ((words.getD (i + 1) 0).toUInt64 <<< 32)

/-- The next state of the generator that expands seeds. -/
def expansionStep (state : UInt64) : UInt64 := state * 6364136223846793005 + 11634580027462260723

/-- The word that the generator gives in a state. -/
def expansionWord (state : UInt64) : UInt32 :=
  rotateRight (((state >>> 18) ^^^ state) >>> 27).toUInt32 (state >>> 59).toUInt32

/-- The first words of the generator after a state. -/
def expand : Nat → UInt64 → List UInt32
  | 0, _ => []
  | n + 1, state =>
    let state := expansionStep state
    expansionWord state :: expand n state

/-- The key of a seed. -/
def Key.ofSeed (seed : UInt64) : Key :=
  match expand 8 seed with
  | [k0, k1, k2, k3, k4, k5, k6, k7] => ⟨k0, k1, k2, k3, k4, k5, k6, k7⟩
  | _ => default

end MapBallot.ChaCha

namespace MapBallot

/-- The random words of a seed. -/
def RandomStream.ofSeed (seed : UInt64) : RandomStream := ⟨(ChaCha.Key.ofSeed seed).word, 0⟩

end MapBallot
