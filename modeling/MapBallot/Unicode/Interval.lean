/-!
# `MapBallot.Unicode.Interval` — tables of code points

Properties of characters are given by tables, of version 17 of the standard. A table lists closed
intervals of code points in ascending order, or rows of characters that stand side by side.

## Contents

* `within` — membership in intervals;
* `valueWithin` — the value that an interval carries;
* `letterAt`, `codeAt` — the entry of a row.
-/

namespace MapBallot.Unicode

/-- Whether a code point lies in one of the intervals. -/
def within (ranges : List (Nat × Nat)) (n : Nat) : Bool :=
  ranges.any fun (first, last) => first ≤ n && n ≤ last

/-- The value of the interval in which a code point lies. -/
def valueWithin (ranges : List (Nat × Nat × Nat)) (n : Nat) : Option Nat :=
  (ranges.find? fun (first, last, _) => first ≤ n && n ≤ last).map fun (_, _, value) => value

/-- The entry for a code point in rows that begin at one and hold a letter for each. -/
def letterAt (rows : List (Nat × String)) (n : Nat) : Option Char :=
  rows.findSome? fun (first, letters) => if n < first then none else letters.toList[n - first]?

/-- The entry for a code point in rows that begin at one and hold a code point for each. -/
def codeAt (rows : List (Nat × List Nat)) (n : Nat) : Option Char :=
  rows.findSome? fun (first, codes) => if n < first then none else codes[n - first]?.map Char.ofNat

end MapBallot.Unicode
