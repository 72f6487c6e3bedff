import MapBallot.Layer
import MapBallot.Json.Schema

/-!
# `MapBallot.Weighting.Document` — how operators write down the weighting

A weighting document names groups of maps and groups of environments. Each group has a weight and a
decay for repeated play. The order of the groups is kept, and so are groups with one name, so that
they can be refused later.

## Contents

* `Entry`, `Document` — groups as they are written;
* `Document.codec` — the written form;
* `Document.schema` — its description.
-/

namespace MapBallot.Weighting

open Json (Codec Field Draft Fault Schema)

variable {Member α : Type}

/-- A group as it is written. -/
structure Entry (Member α : Type) where
  weight : Int
  repeatDecay : α
  members : List Member
  deriving DecidableEq, Repr

namespace Entry

/-- The fields of a written group; `listed` names the field of its members. -/
def fields (decay : Codec α) (listed : String) (member : Codec Member) : List Field := [
  .required "weight" .signed64,
  .required "repeat_decay" decay,
  .required listed (.list member)]

/-- Groups are records; unknown fields are refused. -/
def codec (decay : Codec α) (heading : String) (listed : String) (member : Codec Member) :
    Codec (Entry Member α) :=
  .record ⟨heading, true, true⟩ (fields decay listed member)
    (fun (weight, repeatDecay, members, ()) => ⟨weight, repeatDecay, members⟩)
    (fun e => (e.weight, e.repeatDecay, e.members, ()))

end Entry

/-- The groups of a document, with their names and in its order. -/
abbrev Entries (Member α : Type) := List (String × Entry Member α)

/-- Named groups are the members of an object. -/
def Entries.codec (entry : Codec (Entry Member α)) : Codec (Entries Member α) where
  read := Codec.readDictionary "an object of named groups" .ok entry
  write es := .object (es.map fun (name, e) => (name, entry.write e))

/-- A weighting document. -/
structure Document (α : Type) where
  groups : Entries String α
  environments : Entries Environment α

namespace Document

/-- The fields of a written document. -/
def fields (decay : Codec α) : List Field := [
  .required "groups" (Entries.codec (Entry.codec decay "MapGroupEntry" "maps" .text)),
  .required "environments" (Entries.codec
    (Entry.codec decay "EnvironmentGroupEntry" "environments" Environment.codec))]

/-- Documents are records; unknown fields are refused. -/
def codec (decay : Codec α) : Codec (Document α) :=
  .record ⟨"WeightingDocument", true, true⟩ (fields decay)
    (fun (groups, environments, ()) => ⟨groups, environments⟩)
    (fun d => (d.groups, d.environments, ()))

/-! ## The description of the written form -/

/-- The form of a written group. -/
def entrySchema (listed : String) (member : Schema) : Schema :=
  .record [(listed, .listOf member), ("repeat_decay", .number 0 1), ("weight", .integer 0 100)]

/-- The form of a document in which environments and groups are written. -/
def schema : Schema.Root where
  title := "WeightingDocument"
  description := "Raw weighting document as operators write it.\n\n" ++
    "Group order is preserved and duplicate group keys are kept so validation can reject them " ++
    "instead of silently letting the last one win."
  form := .record [
    ("environments", .dictionaryOf (.ref "EnvironmentGroupEntry")),
    ("groups", .dictionaryOf (.ref "MapGroupEntry"))]
  definitions := [
    ("Environment", .oneOf "Lighting/weather variant of a layer. Closed set."
      (Environment.all.map Environment.name)),
    ("EnvironmentGroupEntry", entrySchema "environments" (.ref "Environment")),
    ("MapGroupEntry", entrySchema "maps" .text)]

end Document

end MapBallot.Weighting
