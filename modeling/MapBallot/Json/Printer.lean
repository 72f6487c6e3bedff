import MapBallot.Decimal.Shortest
import MapBallot.Json.Basic
import MapBallot.Text.Quoted

/-!
# `MapBallot.Json.Printer` — documents as texts

## Contents

* `printString`, `printNumber` — the leaves;
* `print` — a document on one line;
* `printLines` — a document over several lines, each level indented by two blanks.
-/

namespace MapBallot.Json

/-- One character of a quoted text. Only quotes, backslashes and controls are escaped. -/
def printChar (c : Char) : String :=
  if c == '"' then "\\\""
  else if c == '\\' then "\\\\"
  else if c == '\n' then "\\n"
  else if c == '\r' then "\\r"
  else if c == '\t' then "\\t"
  else if c.toNat == 8 then "\\b"
  else if c.toNat == 12 then "\\f"
  else if c.toNat < 0x20 then
    "\\u00" ++ (if c.toNat < 16 then "0" else "") ++ Text.hexDigits c.toNat
  else String.singleton c

/-- A quoted text. -/
def printString (s : String) : String := "\"" ++ String.join (s.toList.map printChar) ++ "\""

/-- A decimal with an exponent where it would have more than sixteen digits before the point, or
more than four zeros after it. -/
def printDigits (d : Decimal.Digits) : String :=
  let ds := Nat.toDigits 10 d.digits
  let point : Int := ds.length + d.exponent
  if 0 < point && point ≤ 16 then
    let text := d.positional
    if 0 ≤ d.exponent then text ++ ".0" else text
  else if -5 < point && point ≤ 0 then d.positional
  else
    let exponent := "e" ++ toString (point - 1)
    match ds with
    | [d] => String.singleton d ++ exponent
    | d :: rest => String.singleton d ++ "." ++ String.ofList rest ++ exponent
    | [] => "0.0"

/-- A number. A double always has a point or an exponent; one without a value is null. -/
def printNumber : Number → String
  | .integer z => toString z
  | .real x =>
    match Decimal.Binary.ofFloat? x with
    | none => "null"
    | some b =>
      (if b.negative then "-" else "") ++
        if b.mantissa == 0 then "0.0" else printDigits b.shortest

mutual

/-- A document on one line. -/
def print : Json → String
  | .null => "null"
  | .bool b => if b then "true" else "false"
  | .number n => printNumber n
  | .string s => printString s
  | .array items => "[" ++ ",".intercalate (printItems items) ++ "]"
  | .object members => "\x7b" ++ ",".intercalate (printMembers members) ++ "\x7d"

/-- The items of a sequence, each on one line. -/
def printItems : List Json → List String
  | [] => []
  | d :: ds => print d :: printItems ds

/-- The members of an object, each on one line. -/
def printMembers : List (String × Json) → List String
  | [] => []
  | (k, d) :: ms => (printString k ++ ":" ++ print d) :: printMembers ms

end

/-- Parts between brackets, each on a line of its own. -/
def printBlock (opening closing : String) (indent : Nat) (parts : List String) : String :=
  let line (depth : Nat) : String := "\n" ++ String.ofList (List.replicate (2 * depth) ' ')
  if parts.isEmpty then opening ++ closing
  else
    opening ++ line (indent + 1) ++ ("," ++ line (indent + 1)).intercalate parts ++ line indent ++
      closing

mutual

/-- A document over several lines, of which the first is indented already. -/
def printIndented (indent : Nat) : Json → String
  | .array items => printBlock "[" "]" indent (printIndentedItems (indent + 1) items)
  | .object members => printBlock "\x7b" "\x7d" indent (printIndentedMembers (indent + 1) members)
  | .null => "null"
  | .bool b => if b then "true" else "false"
  | .number n => printNumber n
  | .string s => printString s

/-- The items of a sequence over several lines. -/
def printIndentedItems (indent : Nat) : List Json → List String
  | [] => []
  | d :: ds => printIndented indent d :: printIndentedItems indent ds

/-- The members of an object over several lines. -/
def printIndentedMembers (indent : Nat) : List (String × Json) → List String
  | [] => []
  | (k, d) :: ms =>
    (printString k ++ ": " ++ printIndented indent d) :: printIndentedMembers indent ms

end

/-- A document over several lines. -/
def printLines (d : Json) : String := printIndented 0 d

end MapBallot.Json
