import MapBallot.Json.Basic

/-!
# `MapBallot.Json.Literal` — number literals

A number literal is an optional minus sign, digits without a leading zero, an optional fraction and
an optional exponent. Whole literals that fit 64 bits are exact. Every other literal is read from
the leading digits that fit 64 bits, scaled by one multiplication or division by a power of ten; a
value beyond the greatest double has no reading.

## Contents

* `Literal` — the parts of a number literal;
* `Literal.scan?` — the literal at the start of a text;
* `scaleByTen?` — multiplication by a power of ten in doubles;
* `Literal.number?` — the value of a literal.
-/

namespace MapBallot.Json

/-- The parts of a number literal. -/
structure Literal where
  negative : Bool
  whole : List Char
  fraction : List Char
  /-- The sign and the digits of the exponent, if one is written. -/
  exponent : Option (Bool × List Char)
  /-- The literal is a plain whole number. -/
  isWhole : Bool

/-- The digits at the start of a text, and the rest. -/
def spanDigits (cs : List Char) : List Char × List Char :=
  (cs.takeWhile Char.isDigit, cs.dropWhile Char.isDigit)

/-- The exponent at the start of a text, if one is written: `none` when it has no digits. -/
def scanExponent? : List Char → Option (Option (Bool × List Char) × List Char)
  | c :: cs =>
    if c == 'e' || c == 'E' then
      let (negative, cs) : Bool × List Char :=
        match cs with
        | '-' :: cs => (true, cs)
        | '+' :: cs => (false, cs)
        | cs => (false, cs)
      let (ds, rest) := spanDigits cs
      if ds.isEmpty then none else some (some (negative, ds), rest)
    else some (none, c :: cs)
  | [] => some (none, [])

/-- The literal at the start of a text, without its sign, and the rest of the text. -/
def Literal.scanUnsigned? (negative : Bool) (cs : List Char) : Option (Literal × List Char) :=
  let (whole, rest) := spanDigits cs
  match whole with
  | [] => none
  | '0' :: _ :: _ => none
  | _ =>
    match rest with
    | '.' :: afterPoint =>
      let (fraction, rest) := spanDigits afterPoint
      if fraction.isEmpty then none
      else (scanExponent? rest).map fun (e, rest) => (⟨negative, whole, fraction, e, false⟩, rest)
    | rest =>
      (scanExponent? rest).map fun (e, rest) => (⟨negative, whole, [], e, e.isNone⟩, rest)

/-- The literal at the start of a text and the rest of the text. -/
def Literal.scan? : List Char → Option (Literal × List Char)
  | '-' :: cs => scanUnsigned? true cs
  | cs => scanUnsigned? false cs

/-- The value of one decimal digit. -/
def digitValue (c : Char) : Nat := c.toNat - '0'.toNat

/-- Appends whole digits to a significand while it fits 64 bits; from then on each digit raises the
exponent. -/
def takeWhole (cs : List Char) : Nat × Int :=
  let (significand, exponent, _) := cs.foldl
    (fun (state : Nat × Int × Bool) c =>
      let (n, e, full) := state
      if full || UInt64.size ≤ n * 10 + digitValue c then (n, e + 1, true)
      else (n * 10 + digitValue c, e, false))
    (0, 0, false)
  (significand, exponent)

/-- Appends fraction digits to a significand while it fits 64 bits; each lowers the exponent, and
the digits after the first that does not fit are dropped. -/
def takeFraction : Nat → Int → List Char → Nat × Int
  | n, e, [] => (n, e)
  | n, e, c :: cs =>
    if UInt64.size ≤ n * 10 + digitValue c then (n, e)
    else takeFraction (n * 10 + digitValue c) (e - 1) cs

/-- A power of ten up to `10^308`, rounded to the nearest double. -/
def powerOfTen (n : Nat) : Float := Float.ofScientific 1 false n

/-- A double times a power of ten, in one multiplication or division where the power is a double;
`none` beyond the greatest double. -/
def scaleByTen? (x : Float) (e : Int) : Option Float :=
  if 0 ≤ e then
    if e ≤ 308 then
      let y := x * powerOfTen e.toNat
      if y.isInf then none else some y
    else if x == 0 then some x else none
  else if -308 ≤ e then some (x / powerOfTen (-e).toNat)
  else if x == 0 then some x
  else scaleByTen? (x / powerOfTen 308) (e + 308)
termination_by (-e).toNat
decreasing_by omega

/-- The exponent digits as a number, `none` from `2^31` on. -/
def exponentValue? (cs : List Char) : Option Nat :=
  cs.foldl
    (fun acc c => acc.bind fun n =>
      if n * 10 + digitValue c < UInt32.size / 2 then some (n * 10 + digitValue c) else none)
    (some 0)

/-- The double that a literal spells, `none` beyond the greatest double. -/
def Literal.real? (l : Literal) : Option Float :=
  let (n, e) := takeWhole l.whole
  let (n, e) := takeFraction n e l.fraction
  let x := n.toUInt64.toFloat
  let magnitude : Option Float :=
    match l.exponent with
    | none => scaleByTen? x e
    | some (negative, ds) =>
      match exponentValue? ds with
      | some k => scaleByTen? x (if negative then e - k else e + k)
      | none => if n != 0 && !negative then none else some 0
  magnitude.map fun y => if l.negative then -y else y

/-- The value of a literal, `none` beyond the greatest double. -/
def Literal.number? (l : Literal) : Option Number :=
  let n := l.whole.foldl (fun n c => n * 10 + digitValue c) 0
  if l.isWhole && n < UInt64.size then
    if !l.negative then some (.integer n)
    else if n == 0 || UInt64.size / 2 < n then some (.real (-n.toUInt64.toFloat))
    else some (.integer (-n))
  else l.real?.map .real

end MapBallot.Json
