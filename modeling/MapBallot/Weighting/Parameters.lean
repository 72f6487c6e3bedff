import MapBallot.Identifier
import MapBallot.Scalar
import MapBallot.Weighting.Document
import MapBallot.Files.ReadFault

/-!
# `MapBallot.Weighting.Parameters` — the validated weighting

The groups of a document become weighting parameters if every name is an identifier, every weight
and decay is in its range, and nothing is listed in two groups of one kind. Groups are checked in
the order of the document, map groups first, and the first violation is reported.

## Contents

* `GroupKind`, `Group`, `Parameters` — the validated groups;
* `Problem` — why there are no parameters, with its wording;
* `Axis` — what map groups and environment groups differ in;
* `Axis.readGroups`, `Parameters.ofDocument`, `Parameters.ofText` — validation.
-/

namespace MapBallot.Weighting

variable {Member α : Type}

/-- The two kinds of groups. -/
inductive GroupKind
  | map
  | environment
  deriving DecidableEq, Repr

/-- The name of a kind of groups. -/
def GroupKind.name : GroupKind → String
  | .map => "map"
  | .environment => "environment"

/-- A validated group. -/
structure Group (Member α : Type) where
  name : String
  weight : Nat
  repeatDecay : α
  members : List Member
  deriving DecidableEq, Repr

/-- A group as a document; `nameOf` names its members. -/
def Group.toJson (nameOf : Member → String) (g : Group Member Float) : Json := .object [
  ("name", .string g.name), ("weight", .ofNat g.weight), ("repeat_decay", .ofFloat g.repeatDecay),
  ("members", .ofStrings (g.members.map nameOf))]

/-- The group with a name. -/
def groupNamed? (groups : List (Group Member α)) (name : String) : Option (Group Member α) :=
  groups.find? (·.name == name)

/-- The first group that lists a member. -/
def groupOf? [BEq Member] (groups : List (Group Member α)) (member : Member) :
    Option (Group Member α) :=
  groups.find? (·.members.contains member)

/-- The validated groups, in the order of their document. -/
structure Parameters (α : Type) where
  mapGroups : List (Group String α)
  environmentGroups : List (Group Environment α)
  deriving DecidableEq, Repr

namespace Parameters

/-- The group of a map. -/
def mapGroupOf? (p : Parameters α) (map : String) : Option (Group String α) :=
  groupOf? p.mapGroups map

/-- The group of an environment. -/
def environmentGroupOf? (p : Parameters α) (e : Environment) : Option (Group Environment α) :=
  groupOf? p.environmentGroups e

/-- The map group with a name. -/
def mapGroup? (p : Parameters α) (name : String) : Option (Group String α) :=
  groupNamed? p.mapGroups name

/-- The environment group with a name. -/
def environmentGroup? (p : Parameters α) (name : String) : Option (Group Environment α) :=
  groupNamed? p.environmentGroups name

end Parameters

/-- Why there are no weighting parameters. -/
inductive Problem (α : Type)
  | unparsable (fault : Json.Fault)
  | unreadable (path : String) (fault : Files.ReadFault)
  | missingGroups (kind : GroupKind)
  | duplicateGroup (kind : GroupKind) (group : String)
  | invalidIdentifier (kind : GroupKind) (group value : String)
  | weightOutOfRange (kind : GroupKind) (group : String) (weight : Int)
  | repeatDecayOutOfRange (kind : GroupKind) (group : String) (repeatDecay : α)
  | duplicateMember (kind : GroupKind) (member first second : String)
  deriving DecidableEq, Repr

/-- The wording of a problem; `showDecay` writes a decay. -/
def Problem.message (showDecay : α → String) : Problem α → String
  | .unparsable fault => "failed to parse weighting parameters: " ++ fault.message
  | .unreadable path fault =>
    "failed to read weighting parameters from " ++ Text.quote path ++ ": " ++ fault.message
  | .missingGroups kind => "at least one " ++ kind.name ++ " group is required"
  | .duplicateGroup kind group => "duplicate " ++ kind.name ++ " group " ++ Json.ticked group
  | .invalidIdentifier kind group value =>
    kind.name ++ " group " ++ Json.ticked group ++ ": " ++ Json.ticked value ++
      " is not a valid identifier (expected [A-Za-z0-9_], at most 50 characters)"
  | .weightOutOfRange kind group weight =>
    kind.name ++ " group " ++ Json.ticked group ++ ": weight " ++ toString weight ++
      " is outside 0..=100"
  | .repeatDecayOutOfRange kind group repeatDecay =>
    kind.name ++ " group " ++ Json.ticked group ++ ": repeat_decay " ++ showDecay repeatDecay ++
      " is outside 0.0..=1.0"
  | .duplicateMember kind member first second =>
    kind.name ++ " " ++ Json.ticked member ++ " is listed in both " ++ Json.ticked first ++
      " and " ++ Json.ticked second

/-! ## Validation -/

/-- The greatest weight of a group. -/
def maxWeight : Nat := 100

/-- What map groups and environment groups differ in. -/
structure Axis (Member : Type) where
  kind : GroupKind
  isValid : Member → Bool
  name : Member → String

namespace Axis

/-- Maps are named by identifiers. -/
def map : Axis String := ⟨.map, isIdentifier, id⟩

/-- Every environment may be listed. -/
def environment : Axis Environment := ⟨.environment, fun _ => true, Environment.name⟩

variable [BEq Member]

/-- Adds the listed members to those of a group, each once. No earlier group may list one of them.
-/
def readMembers (axis : Axis Member) (earlier : List (Group Member α)) (name : String) :
    List Member → List Member → Except (Problem α) (List Member)
  | members, [] => .ok members
  | members, m :: ms =>
    if !axis.isValid m then .error (.invalidIdentifier axis.kind name (axis.name m))
    else
      match groupOf? earlier m with
      | some owner => .error (.duplicateMember axis.kind (axis.name m) owner.name name)
      | none =>
        axis.readMembers earlier name (if members.contains m then members else members ++ [m]) ms

variable [Scalar α]

/-- A decay is at least zero and at most one. -/
def decayInRange (d : α) : Bool := Scalar.le (Scalar.ofNat 0) d && Scalar.le d (Scalar.ofNat 1)

/-- Validates a group that follows the earlier ones: its name, its weight, its decay, its members.
-/
def readGroup (axis : Axis Member) (earlier : List (Group Member α)) (name : String)
    (e : Entry Member α) : Except (Problem α) (Group Member α) :=
  if !isIdentifier name then .error (.invalidIdentifier axis.kind name name)
  else if earlier.any (·.name == name) then .error (.duplicateGroup axis.kind name)
  else if e.weight < 0 || (maxWeight : Int) < e.weight then
    .error (.weightOutOfRange axis.kind name e.weight)
  else if !decayInRange e.repeatDecay then
    .error (.repeatDecayOutOfRange axis.kind name e.repeatDecay)
  else (axis.readMembers earlier name [] e.members).map fun members =>
    ⟨name, e.weight.toNat, e.repeatDecay, members⟩

/-- Validates the groups that follow the earlier ones. -/
def readGroupsAfter (axis : Axis Member) :
    List (Group Member α) → Entries Member α → Except (Problem α) (List (Group Member α))
  | earlier, [] => .ok earlier
  | earlier, (name, e) :: es =>
    match axis.readGroup earlier name e with
    | .ok g => axis.readGroupsAfter (earlier ++ [g]) es
    | .error problem => .error problem

/-- Validates the groups of one kind; there must be one. -/
def readGroups (axis : Axis Member) (es : Entries Member α) :
    Except (Problem α) (List (Group Member α)) :=
  if es.isEmpty then .error (.missingGroups axis.kind) else axis.readGroupsAfter [] es

end Axis

namespace Parameters

/-- Validates a document, its map groups first. -/
def ofDocument [Scalar α] (d : Document α) : Except (Problem α) (Parameters α) := do
  let mapGroups ← Axis.map.readGroups d.groups
  let environmentGroups ← Axis.environment.readGroups d.environments
  pure ⟨mapGroups, environmentGroups⟩

/-- The parameters that a text describes. -/
def ofText (text : String) : Except (Problem Float) (Parameters Float) :=
  match (Document.codec .real).ofText text with
  | .ok d => ofDocument d
  | .error fault => .error (.unparsable fault)

end Parameters

/-- The wording of a problem of a document with doubles. -/
abbrev Problem.text (p : Problem Float) : String := p.message Decimal.positional

end MapBallot.Weighting
