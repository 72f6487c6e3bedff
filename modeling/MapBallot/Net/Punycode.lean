import MapBallot.Ascending

/-!
# `MapBallot.Net.Punycode` — letters of all scripts in host names

Host names consist of ASCII characters. A label with others is written with its ASCII characters
first; after a hyphen follow, in base 36, the distances from one other character to the next, in the
order of their code points and then of their places. The number of digits adapts to the distances.

## Contents

* `threshold`, `writeDistance`, `readDistance?` — a distance in digits of varying weight;
* `adapt` — the next bias;
* `encode`, `decode?` — from a label to its ASCII characters, and back.
-/

namespace MapBallot.Net.Punycode

/-- A digit in base 36: letters come before figures. -/
def digit (d : Nat) : Char :=
  if d < 26 then Char.ofNat ('a'.toNat + d) else Char.ofNat ('0'.toNat + (d - 26))

/-- The value of a digit. -/
def digitValue? (c : Char) : Option Nat :=
  if 'a' ≤ c && c ≤ 'z' then some (c.toNat - 'a'.toNat)
  else if 'A' ≤ c && c ≤ 'Z' then some (c.toNat - 'A'.toNat)
  else if '0' ≤ c && c ≤ '9' then some (c.toNat - '0'.toNat + 26)
  else none

/-- From which value on the digit at a position is followed by another. -/
def threshold (position bias : Nat) : Nat := min 26 (max 1 (position - bias))

/-- Writes a distance, the lowest digit first; `fuel` bounds the number of digits. -/
def writeDistance (bias : Nat) : Nat → Nat → Nat → List Char
  | 0, _, distance => [digit distance]
  | fuel + 1, position, distance =>
    let t := threshold position bias
    if distance < t then [digit distance]
    else
      digit (t + (distance - t) % (36 - t)) ::
        writeDistance bias fuel (position + 36) ((distance - t) / (36 - t))

/-- Halves a distance in the scale of the digits until it is small; `fuel` bounds the steps. -/
def scaleDown : Nat → Nat → Nat → Nat × Nat
  | 0, distance, steps => (distance, steps)
  | fuel + 1, distance, steps =>
    if 455 < distance then scaleDown fuel (distance / 35) (steps + 36) else (distance, steps)

/-- The bias after a distance, when `written` characters of the label are written. -/
def adapt (distance written : Nat) (first : Bool) : Nat :=
  let distance := if first then distance / 700 else distance / 2
  let (rest, steps) := scaleDown 64 (distance + distance / written) 0
  steps + 36 * rest / (rest + 38)

/-- What is known while a label is written. -/
structure State where
  output : List Char
  distance : Nat
  bias : Nat
  written : Nat

/-- Looks at one character of the label while characters with the code point `point` are written. -/
def State.visit (ascii point : Nat) (s : State) (c : Char) : State :=
  if c.toNat < point then { s with distance := s.distance + 1 }
  else if c.toNat == point then
    { output := s.output ++ writeDistance s.bias 32 36 s.distance
      distance := 0
      bias := adapt s.distance (s.written + 1) (s.written == ascii)
      written := s.written + 1 }
  else s

/-- Writes the characters with each of the given code points; all smaller ones than `next` are
written. -/
def State.writePoints (label : List Char) (ascii : Nat) : State → Nat → List Nat → State
  | s, _, [] => s
  | s, next, point :: points =>
    let s := { s with distance := s.distance + (point - next) * (s.written + 1) }
    let s := label.foldl (State.visit ascii point) s
    writePoints label ascii { s with distance := s.distance + 1 } (point + 1) points

/-- Writes a label in ASCII characters. -/
def encode (label : List Char) : List Char :=
  let ascii := label.filter fun c => c.toNat < 0x80
  let points := Ascending.arrange (fun a b => a < b)
    ((label.filter fun c => 0x80 ≤ c.toNat).map Char.toNat)
  let start : State := ⟨if ascii.isEmpty then [] else ascii ++ ['-'], 0, 72, ascii.length⟩
  (start.writePoints label ascii.length 0x80 points).output

/-! ## Reading -/

/-- The bound of distances and of the weights of their digits. -/
def bound : Nat := UInt32.size

/-- Reads a distance and adds it to another; with the text after it. -/
def readDistance? (bias : Nat) : List Char → Nat → Nat → Nat → Option (Nat × List Char)
  | [], _, _, _ => none
  | c :: cs, position, weight, distance =>
    match digitValue? c with
    | none => none
    | some d =>
      let distance := distance + d * weight
      let t := threshold position bias
      if bound ≤ distance then none
      else if d < t then some (distance, cs)
      else if bound ≤ weight * (36 - t) then none
      else readDistance? bias cs (position + 36) (weight * (36 - t)) distance

/-- A code point of a character. -/
def isScalar (n : Nat) : Bool := n < 0xD800 || (0xDFFF < n && n < 0x110000)

/-- Inserts the characters whose distances a text gives into a label: the next one has at least the
code point `point`, and at that code point it stands at `start` or after. `fuel` bounds the number
of characters. -/
def insertFrom (label : List Char) (bias point start : Nat) :
    Nat → List Char → Option (List Char)
  | _, [] => some label
  | 0, _ => none
  | fuel + 1, cs =>
    match readDistance? bias cs 36 1 start with
    | none => none
    | some (distance, rest) =>
      let size := label.length + 1
      let point := point + distance / size
      if isScalar point then
        insertFrom (label.insertIdx (distance % size) (.ofNat point))
          (adapt (distance - start) size (start == 0)) point (distance % size + 1) fuel rest
      else none

/-- Cuts a text at its last hyphen. A hyphen at its start is none. -/
def splitLastHyphen (cs : List Char) : List Char × List Char :=
  match cs.reverse.dropWhile (· != '-') with
  | [] | [_] => ([], cs)
  | _ :: before => (before.reverse, (cs.reverse.takeWhile (· != '-')).reverse)

/-- Reads the label that ASCII characters stand for. -/
def decode? (cs : List Char) : Option (List Char) :=
  let (ascii, distances) := splitLastHyphen cs
  insertFrom ascii 72 0x80 0 distances.length distances

end MapBallot.Net.Punycode
