/-!
# `MapBallot.Json.Basic` — documents

A document is what a complete text says: null, a truth value, a number, a text, a sequence, or an
object whose members keep their order and may repeat a name. Whole numbers that fit 64 bits are
exact; every other number is a double.

## Contents

* `Number`, `Json` — the documents;
* `Json.ofStrings`, `Json.ofNat`, … — documents built from plain values.
-/

namespace MapBallot

namespace Json

/-- A number of a document. -/
inductive Number
  /-- A whole number from `-2^63` to `2^64 - 1`. -/
  | integer (z : Int)
  /-- Any other number. -/
  | real (x : Float)

end Json

/-- A document. -/
inductive Json
  | null
  | bool (b : Bool)
  | number (n : Json.Number)
  | string (s : String)
  | array (items : List Json)
  | object (members : List (String × Json))

namespace Json

/-- A whole number. -/
def ofNat (n : Nat) : Json := .number (.integer n)

/-- A double. -/
def ofFloat (x : Float) : Json := .number (.real x)

/-- A sequence of texts. -/
def ofStrings (ss : List String) : Json := .array (ss.map .string)

/-- A value, or null for none. -/
def ofOption {α : Type} (f : α → Json) : Option α → Json
  | none => .null
  | some a => f a

/-- A text, or null for none. -/
def ofString? (s : Option String) : Json := ofOption .string s

/-- A whole number, or null for none. -/
def ofNat? (n : Option Nat) : Json := ofOption ofNat n

end Json

end MapBallot
