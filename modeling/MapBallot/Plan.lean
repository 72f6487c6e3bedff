import MapBallot.Layer

/-!
# `MapBallot.Plan` — how many options to draw for each game mode

A plan assigns counts to game modes. A mode may be listed with the count zero, which is told apart
from a mode that is not listed.

## Contents

* `Plan`, `Plan.set`, `Plan.count`, `Plan.total`, `Plan.requests`;
* `Plan.standard` — four warfare, two offensive and one control option;
* `Plan.codec`.
-/

namespace MapBallot

open Json (Codec Draft Fault)

/-- The listed count of each game mode. -/
structure Plan where
  listed : GameMode → Option UInt64

namespace Plan

/-- Two plans are equal when they list the same counts. -/
instance : BEq Plan where
  beq p q := GameMode.all.all fun m => p.listed m == q.listed m

/-- A plan that lists no mode. -/
def empty : Plan := ⟨fun _ => none⟩

/-- The plan with the count of one mode replaced. -/
def set (p : Plan) (mode : GameMode) (count : UInt64) : Plan :=
  ⟨fun m => if m = mode then some count else p.listed m⟩

/-- How many options of a mode to draw. -/
def count (p : Plan) (mode : GameMode) : Nat := ((p.listed mode).getD 0).toNat

/-- How many options to draw in all. The counts are added without a bound: it is left out that a sum from
`2 ^ 64` on overflows a machine word, and that room for as many candidates is reserved before they are
drawn, which fails for plans that far exceed any catalog. -/
def total (p : Plan) : Nat := GameMode.all.foldl (fun n mode => n + p.count mode) 0

/-- The plan asks for nothing. -/
def isEmpty (p : Plan) : Bool := p.total == 0

/-- The modes of which options are to be drawn, in mode order, with their counts. -/
def requests (p : Plan) : List (GameMode × Nat) :=
  (GameMode.all.map fun m => (m, p.count m)).filter fun (_, n) => n != 0

/-- The listed modes, in mode order, with their counts. -/
def entries (p : Plan) : List (GameMode × UInt64) :=
  GameMode.all.filterMap fun m => (p.listed m).map fun n => (m, n)

/-- The plan with these entries; of several for one mode the last counts. -/
def ofEntries (es : List (GameMode × UInt64)) : Plan :=
  es.foldl (fun p (m, n) => p.set m n) empty

/-- Four warfare, two offensive and one control option. -/
def standard : Plan := ((empty.set .warfare 4).set .offensive 2).set .control 1

/-- Plans are objects from mode names to counts. -/
def codec : Codec Plan where
  read d :=
    let mode := Codec.lookup (GameMode.all.map GameMode.name) GameMode.ofName?
    (Codec.readDictionary "a map" mode (.word64 "usize") d).map ofEntries
  write p := .object (p.entries.map fun (m, n) => (m.name, .ofNat n.toNat))

theorem listed_set_self (p : Plan) (m : GameMode) (n : UInt64) : (p.set m n).listed m = some n := by
  simp [set]

theorem listed_set_of_ne (p : Plan) {m m' : GameMode} (n : UInt64) (h : m' ≠ m) :
    (p.set m n).listed m' = p.listed m' := by
  simp [set, h]

end Plan

end MapBallot
