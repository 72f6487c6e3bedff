import MapBallot.Json.Literal
import MapBallot.Text.Quoted
import MapBallot.Decimal.Shortest

/-!
# `MapBallot.Json.Draft` — documents as far as their text can be read

A text need not be a document. Its *draft* is everything that can be read before the first place
where it stops being one: containers that are cut off there are marked as not closed. A reader that
walks a draft in order meets the first problem of the text first, whether the text is malformed
there or says something unexpected.

## Contents

* `Draft`, `Draft.ofJson` — drafts, and the draft of a whole document;
* `Draft.isWhole` — nothing is cut off;
* `Draft.isSound` — moreover every text and number in it has a value;
* `Draft.depth` — how deep containers are nested;
* `Draft.toJson?` — the document that a draft spells out;
* `Fault` — why a draft is not a value of an expected form, with its wording.
-/

namespace MapBallot.Json

/-- A document as far as its text can be read. -/
inductive Draft
  /-- Nothing can be read here. -/
  | broken
  | null
  | bool (b : Bool)
  /-- A number literal; `none` if it is beyond the greatest double. -/
  | number (n : Option Number)
  /-- A quoted text; `none` if its escapes do not spell characters. -/
  | string (s : Option String)
  /-- A sequence, cut off after the last item unless it is closed. -/
  | array (items : List Draft) (closed : Bool)
  /-- An object, cut off after the last member unless it is closed. A name is a text, or nothing
  that can be read. -/
  | object (members : List (Draft × Draft)) (closed : Bool)
  deriving Inhabited

namespace Draft

mutual

/-- The draft of a document. -/
def ofJson : Json → Draft
  | .null => .null
  | .bool b => .bool b
  | .number n => .number (some n)
  | .string s => .string (some s)
  | .array items => .array (ofItems items) true
  | .object members => .object (ofMembers members) true

/-- The drafts of the items of a sequence. -/
def ofItems : List Json → List Draft
  | [] => []
  | d :: ds => ofJson d :: ofItems ds

/-- The drafts of the members of an object. -/
def ofMembers : List (String × Json) → List (Draft × Draft)
  | [] => []
  | (k, d) :: ms => (.string (some k), ofJson d) :: ofMembers ms

end

mutual

/-- Nothing of the text is cut off. -/
def isWhole : Draft → Bool
  | .broken => false
  | .null | .bool _ | .number _ | .string _ => true
  | .array items closed => closed && itemsWhole items
  | .object members closed => closed && membersWhole members

/-- No item is cut off. -/
def itemsWhole : List Draft → Bool
  | [] => true
  | d :: ds => isWhole d && itemsWhole ds

/-- No member is cut off. -/
def membersWhole : List (Draft × Draft) → Bool
  | [] => true
  | (_, d) :: ms => isWhole d && membersWhole ms

end

mutual

/-- The document that a draft spells out, if nothing is cut off and every name, text and number in
it has a value. -/
def toJson? : Draft → Option Json
  | .broken => none
  | .null => some .null
  | .bool b => some (.bool b)
  | .number n => n.map .number
  | .string s => s.map .string
  | .array items closed => if closed then (itemsToJson? items).map .array else none
  | .object members closed => if closed then (membersToJson? members).map .object else none

/-- The documents that items spell out. -/
def itemsToJson? : List Draft → Option (List Json)
  | [] => some []
  | d :: ds => (toJson? d).bind fun j => (itemsToJson? ds).map (j :: ·)

/-- The members that a draft of them spells out. -/
def membersToJson? : List (Draft × Draft) → Option (List (String × Json))
  | [] => some []
  | (.string (some k), d) :: ms => (toJson? d).bind fun j => (membersToJson? ms).map ((k, j) :: ·)
  | _ :: _ => none

end

/-- The draft spells out a document. -/
def isSound (d : Draft) : Bool := d.toJson?.isSome

mutual

/-- How deep containers are nested. -/
def depth : Draft → Nat
  | .array items _ => itemsDepth items + 1
  | .object members _ => membersDepth members + 1
  | _ => 0

/-- The greatest depth of the items. -/
def itemsDepth : List Draft → Nat
  | [] => 0
  | d :: ds => max (depth d) (itemsDepth ds)

/-- The greatest depth of the members. -/
def membersDepth : List (Draft × Draft) → Nat
  | [] => 0
  | (_, d) :: ms => max (depth d) (membersDepth ms)

end

/-- What a message says stands in the document. -/
def describe : Draft → String
  | .broken => "nothing"
  | .null => "null"
  | .bool b => "boolean \x60" ++ toString b ++ "\x60"
  | .number (some (.integer z)) => "integer \x60" ++ toString z ++ "\x60"
  | .number (some (.real x)) =>
    let text := Decimal.positional x
    let text := if text.contains '.' then text else text ++ ".0"
    "floating point \x60" ++ text ++ "\x60"
  | .number none => "number"
  | .string s => "string " ++ Text.quote (s.getD "")
  | .array _ _ => "sequence"
  | .object _ _ => "map"

end Draft

/-- Why a draft is not a value of an expected form. -/
inductive Fault
  /-- The text is malformed, or ends, before the value is complete. -/
  | malformed
  /-- Something of another kind stands where `expected` should stand. -/
  | wrongKind (found : String) (expected : String)
  /-- A whole number does not fit its field. -/
  | outOfRange (z : Int) (expected : String)
  /-- A sequence ends before a field that has no default. -/
  | tooShort (length : Nat) (expected : String)
  | missingField (name : String)
  | duplicateField (name : String)
  | unknownField (name : String) (expected : List String)
  | unknownVariant (name : String) (expected : List String)
  /-- None of the forms of a value with several forms fits. -/
  | noAlternative (name : String)
  /-- The value has the right form but breaks a rule of its own. -/
  | invalid (reason : String)
  deriving DecidableEq, Repr

/-- A name between grave accents. -/
def ticked (s : String) : String := "\x60" ++ s ++ "\x60"

/-- The names that would have been accepted. -/
def expectedNames : List String → String
  | [] => "there are no names"
  | [a] => "expected " ++ ticked a
  | [a, b] => "expected " ++ ticked a ++ " or " ++ ticked b
  | names => "expected one of " ++ ", ".intercalate (names.map ticked)

/-- The wording of a fault. -/
def Fault.message : Fault → String
  | .malformed => "malformed document"
  | .wrongKind found expected => "invalid type: " ++ found ++ ", expected " ++ expected
  | .outOfRange z expected =>
    "invalid value: integer " ++ ticked (toString z) ++ ", expected " ++ expected
  | .tooShort n expected => "invalid length " ++ toString n ++ ", expected " ++ expected
  | .missingField name => "missing field " ++ ticked name
  | .duplicateField name => "duplicate field " ++ ticked name
  | .unknownField name expected => "unknown field " ++ ticked name ++ ", " ++ expectedNames expected
  | .unknownVariant name expected =>
    "unknown variant " ++ ticked name ++ ", " ++ expectedNames expected
  | .noAlternative name => "data did not match any variant of untagged enum " ++ name
  | .invalid reason => reason

/-- The fault of a draft that stands where something else is expected. A draft without a value is
malformed whatever is expected. -/
def Draft.fault (d : Draft) (expected : String) : Fault :=
  match d with
  | .broken | .number none | .string none => .malformed
  | d => .wrongKind d.describe expected

end MapBallot.Json
