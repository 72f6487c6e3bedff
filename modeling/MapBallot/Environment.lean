/-!
# `MapBallot.Environment` — lighting and weather of a layer

The closed set of variants in which a map is offered, in their fixed order, with their names.

## Contents

* `Environment`, `Environment.all` — the set and its order;
* `Environment.name` — the lower-case name, as it is written in documents and messages;
* `Environment.ofName?` — the variant of exactly that name;
* `Environment.parse` — the variant a person typed, in any ASCII case.
-/

namespace MapBallot

/-- The lower-case form of a text, ASCII letters only. -/
def asciiLower (s : String) : String := String.ofList (s.toList.map Char.toLower)

/-- A name that belongs to no member of a closed set. -/
structure UnknownName where
  /-- What the name was to denote. -/
  kind : String
  value : String
  deriving DecidableEq, Repr

/-- The wording of an unknown name. -/
def UnknownName.message (e : UnknownName) : String :=
  "unknown " ++ e.kind ++ " '" ++ e.value ++ "'"

/-- Lighting or weather of a layer. -/
inductive Environment
  | dawn
  | day
  | dusk
  | night
  | overcast
  | rain
  deriving DecidableEq, Repr, Inhabited

namespace Environment

/-- Every environment, in the order of the set. -/
def all : List Environment := [dawn, day, dusk, night, overcast, rain]

/-- The name of an environment in documents and messages. -/
def name : Environment → String
  | dawn => "dawn"
  | day => "day"
  | dusk => "dusk"
  | night => "night"
  | overcast => "overcast"
  | rain => "rain"

/-- The name of an environment in log entries. -/
def label : Environment → String
  | dawn => "Dawn"
  | day => "Day"
  | dusk => "Dusk"
  | night => "Night"
  | overcast => "Overcast"
  | rain => "Rain"

/-- The position of an environment in the order of the set. -/
def index : Environment → Nat
  | dawn => 0
  | day => 1
  | dusk => 2
  | night => 3
  | overcast => 4
  | rain => 5

/-- The environment with exactly this name. -/
def ofName? (s : String) : Option Environment := all.find? (·.name == s)

/-- The environment with this name in any ASCII case. -/
def parse (s : String) : Except UnknownName Environment :=
  match ofName? (asciiLower s) with
  | some e => .ok e
  | none => .error ⟨"environment", s⟩

theorem ofName?_name (e : Environment) : ofName? e.name = some e := by cases e <;> decide

end Environment

end MapBallot
