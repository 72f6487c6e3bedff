import MapBallot.Environment

/-!
# `MapBallot.GameMode` — game modes and sides

A layer is played in one of five modes. Offensive layers have an attacking side.

## Contents

* `GameMode` — the modes in the order in which a ballot lists them, with their names;
* `Team` — the two sides.
-/

namespace MapBallot

/-- How a layer is played. -/
inductive GameMode
  | warfare
  | offensive
  | control
  | phased
  | majority
  deriving DecidableEq, Repr, Inhabited

namespace GameMode

/-- Every mode, in the order in which a ballot lists them. -/
def all : List GameMode := [warfare, offensive, control, phased, majority]

/-- The name of a mode in documents and messages. -/
def name : GameMode → String
  | warfare => "warfare"
  | offensive => "offensive"
  | control => "control"
  | phased => "phased"
  | majority => "majority"

/-- The name of a mode in log entries. -/
def label : GameMode → String
  | warfare => "Warfare"
  | offensive => "Offensive"
  | control => "Control"
  | phased => "Phased"
  | majority => "Majority"

/-- The position of a mode in the order of the set. -/
def index : GameMode → Nat
  | warfare => 0
  | offensive => 1
  | control => 2
  | phased => 3
  | majority => 4

/-- The mode with exactly this name. -/
def ofName? (s : String) : Option GameMode := all.find? (·.name == s)

/-- The mode with this name in any ASCII case. -/
def parse (s : String) : Except UnknownName GameMode :=
  match ofName? (asciiLower s) with
  | some m => .ok m
  | none => .error ⟨"game mode", s⟩

theorem mem_all (m : GameMode) : m ∈ all := by cases m <;> decide

theorem ofName?_name (m : GameMode) : ofName? m.name = some m := by cases m <;> decide

end GameMode

/-- A side of a match; on an offensive layer one of them attacks. -/
inductive Team
  | allies
  | axis
  deriving DecidableEq, Repr, Inhabited

namespace Team

/-- Both sides. -/
def all : List Team := [allies, axis]

/-- The name of a side in documents and messages. -/
def name : Team → String
  | allies => "allies"
  | axis => "axis"

/-- The other side. -/
def opponent : Team → Team
  | allies => axis
  | axis => allies

/-- The side with exactly this name. -/
def ofName? (s : String) : Option Team := all.find? (·.name == s)

theorem ofName?_name (t : Team) : ofName? t.name = some t := by cases t <;> decide

end Team

end MapBallot
