/-!
# `MapBallot.Decimal.Shortest` — the shortest decimal that reads back as a double

A finite double is `m · 2^q` with a natural `m`. The reals that round to it form an interval around
it, whose ends belong to it exactly when `m` is even. Its decimal text has the fewest digits with
which some decimal lies in that interval, and among the decimals of that length it is the nearest,
the greater of two that are equally near. Everything is decided in exact natural-number arithmetic.

## Contents

* `Binary` — sign, mantissa and exponent of a finite double, and `Binary.ofFloat?`;
* `Digits` — a decimal `digits · 10^exponent`;
* `Binary.shortest` — the shortest decimal of a positive double;
* `positional` — the text without an exponent, whatever the magnitude.
-/

namespace MapBallot.Decimal

/-- A finite double: `(-1)^negative · mantissa · 2^exponent`. -/
structure Binary where
  negative : Bool
  mantissa : Nat
  exponent : Int
  /-- The next smaller double is half as far away as the next greater one. -/
  lowerIsNearer : Bool

/-- The parts of a double, `none` for an infinity and for what is not a number. -/
def Binary.ofFloat? (x : Float) : Option Binary :=
  let bits : Nat := x.toBits.toNat
  let fraction : Nat := bits % 0x10000000000000
  let biased : Nat := bits / 0x10000000000000 % 0x800
  let negative := bits / 0x8000000000000000 == 1
  if biased == 2047 then none
  else if biased == 0 then some ⟨negative, fraction, -1074, false⟩
  else some ⟨negative, 0x10000000000000 + fraction, (biased : Int) - 1075, fraction == 0 && biased > 1⟩

/-- The decimal `digits · 10^exponent`. -/
structure Digits where
  digits : Nat
  exponent : Int
  deriving DecidableEq, Repr

/-- `base ^ e`, as a numerator for a natural exponent and as a denominator for a negative one. -/
def ratioPow (base : Nat) (e : Int) : Nat × Nat :=
  if 0 ≤ e then (base.pow e.toNat, 1) else (1, base.pow (-e).toNat)

/-- The interval of reals that round to a double, in quarters of its last binary place, with the
value itself in the middle. -/
structure Interval where
  low : Nat
  mid : Nat
  high : Nat
  closed : Bool

/-- The rounding interval of a double, in units of `2^(exponent - 2)`. -/
def Binary.interval (b : Binary) : Interval where
  low := 4 * b.mantissa - (if b.lowerIsNearer then 1 else 2)
  mid := 4 * b.mantissa
  high := 4 * b.mantissa + 2
  closed := b.mantissa % 2 == 0

/-- Of the two neighbours of a double on the grid of multiples of `10^e`, the nearer one that reads
back as the double; of two that are equally near, the greater. -/
def Binary.onGrid? (b : Binary) (e : Int) : Option Nat :=
  let i := b.interval
  let (bn, bd) := ratioPow 2 (b.exponent - 2)
  let (gn, gd) := ratioPow 10 e
  -- one unit of the interval is `unit / grid` multiples of the grid
  let unit := bn * gd
  let grid := bd * gn
  let below := i.mid * unit / grid
  let inside (k : Nat) : Bool :=
    let v := k * grid
    if i.closed then i.low * unit ≤ v && v ≤ i.high * unit
    else i.low * unit < v && v < i.high * unit
  let toBelow := i.mid * unit - below * grid
  let toAbove := (below + 1) * grid - i.mid * unit
  let belowFits := 0 < below && inside below
  let aboveFits := inside (below + 1)
  if belowFits && (!aboveFits || toBelow < toAbove) then some below
  else if aboveFits then some (below + 1)
  else none

/-- Tries coarser grids first: `10^e`, `10^(e-1)`, and so on for `fuel` steps. -/
def Binary.search (b : Binary) : Nat → Int → Digits
  | 0, e => ⟨b.mantissa, e⟩
  | fuel + 1, e =>
    match b.onGrid? e with
    | some k => ⟨k, e⟩
    | none => b.search fuel (e - 1)

/-- Removes trailing zeros, at most `fuel` of them. -/
def Digits.strip : Nat → Digits → Digits
  | 0, d => d
  | fuel + 1, d =>
    if d.digits != 0 && d.digits % 10 == 0 then Digits.strip fuel ⟨d.digits / 10, d.exponent + 1⟩
    else d

/-- The shortest decimal of a double that is not zero. Doubles lie between `10^-324` and `10^309`,
and seventeen digits always suffice. -/
def Binary.shortest (b : Binary) : Digits :=
  Digits.strip 400 (b.search 700 309)

/-- A decimal without an exponent: all digits down to the last one, and a point only before a
fraction. -/
def Digits.positional (d : Digits) : String :=
  let ds := Nat.toDigits 10 d.digits
  if 0 ≤ d.exponent then String.ofList (ds ++ List.replicate d.exponent.toNat '0')
  else
    let places := (-d.exponent).toNat
    let padded := List.replicate (places + 1 - ds.length) '0' ++ ds
    String.ofList (padded.take (padded.length - places)) ++ "." ++
      String.ofList (padded.drop (padded.length - places))

/-- The text of a double without an exponent; a whole value has no point. -/
def positional (x : Float) : String :=
  match Binary.ofFloat? x with
  | none => if x.isNaN then "NaN" else if x < 0 then "-inf" else "inf"
  | some b =>
    let text := if b.mantissa == 0 then "0" else b.shortest.positional
    if b.negative then "-" ++ text else text

end MapBallot.Decimal
