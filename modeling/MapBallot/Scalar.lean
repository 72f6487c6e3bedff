/-!
# `MapBallot.Scalar` — the numbers in which scores are computed

Scores are computed with the four operations, in a fixed order, and compared. The service computes
in doubles; the laws of scoring and drawing are laws of exact fractions. Both are scalars, so one
definition serves for both.

## Contents

* `Scalar` — the operations;
* the scalars `Float` and `Rat`.
-/

namespace MapBallot

/-- The operations that scores and draws need. -/
class Scalar (α : Type) extends Add α, Sub α, Mul α, Div α where
  ofNat : Nat → α
  lt : α → α → Bool
  le : α → α → Bool
  /-- Neither infinite nor undefined. -/
  isFinite : α → Bool
  /-- The point of `[0, total)` that a random word selects, by its 52 high bits. -/
  pick : (total : α) → (word : UInt64) → α

namespace Scalar

/-- Exact fractions; a word selects its 52 high bits' share of the total. -/
instance : Scalar Rat where
  ofNat n := n
  lt x y := x < y
  le x y := x ≤ y
  isFinite _ := true
  pick total word := ((word >>> 12).toNat : Rat) / (0x10000000000000 : Nat) * total

/-- The greatest double below one that the high bits of a word can select, `1 - 2^-52`. -/
def greatestShare : Float := Float.ofBits 0x3FEFFFFFFFFFFFFE

/-- The next smaller double of a positive one. -/
def nextBelow (x : Float) : Float := Float.ofBits (x.toBits - 1)

/-- The greatest scale, from `scale` downwards, with which even the greatest share stays below the
total. The first or second candidate fits; `fuel` bounds the search. -/
def fittingScale (total : Float) : Nat → Float → Float
  | 0, scale => scale
  | fuel + 1, scale =>
    if total ≤ scale * greatestShare then fittingScale total fuel (nextBelow scale) else scale

/-- The double in `[0, 1)` whose binary places are the 52 high bits of a word. -/
def share (word : UInt64) : Float :=
  Float.ofBits ((0x3FF0000000000000 : UInt64) ||| (word >>> 12)) - 1.0

/-- Doubles; a word selects its share of a total that is lowered until no share reaches it. -/
instance : Scalar Float where
  ofNat n := n.toUInt64.toFloat
  lt x y := x < y
  le x y := x ≤ y
  isFinite x := x.isFinite
  pick total word := share word * fittingScale total 64 total

end Scalar

end MapBallot
