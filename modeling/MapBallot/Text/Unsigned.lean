/-!
# `MapBallot.Text.Unsigned` — unsigned decimal numbers typed by hand

A number is an optional plus sign and at least one ASCII digit; leading zeros are allowed, and the
value must fit the field that receives it.

## Contents

* `UnsignedFault` — why a text is not such a number, with its wording;
* `readDigits` — a run of digits below a bound;
* `parseUnsigned` — a number below a bound.
-/

namespace MapBallot.Text

/-- Why a text is not an unsigned number of the expected size. -/
inductive UnsignedFault
  | empty
  | invalidDigit
  | tooLarge
  deriving DecidableEq, Repr

/-- The wording of a number fault. -/
def UnsignedFault.message : UnsignedFault → String
  | .empty => "cannot parse integer from empty string"
  | .invalidDigit => "invalid digit found in string"
  | .tooLarge => "number too large to fit in target type"

/-- Reads digits below `bound` left to right. The first problem counts: a character that is no
digit, or a digit with which the value no longer fits. -/
def readDigits (bound : Nat) : Nat → List Char → Except UnsignedFault Nat
  | n, [] => .ok n
  | n, c :: cs =>
    if c.isDigit then
      let next := n * 10 + (c.toNat - '0'.toNat)
      if next < bound then readDigits bound next cs else .error .tooLarge
    else .error .invalidDigit

/-- Reads an unsigned decimal number below `bound`. -/
def parseUnsigned (bound : Nat) (s : String) : Except UnsignedFault Nat :=
  match s.toList with
  | [] => .error .empty
  | ['+'] => .error .invalidDigit
  | '+' :: cs => readDigits bound 0 cs
  | cs => readDigits bound 0 cs

end MapBallot.Text
