import MapBallot.Json.Basic

/-!
# `MapBallot.Json.Schema` — forms of documents

A schema describes a form that documents may have. Operators' tools read schemas in the exchange
format of draft 7; `Schema.Root.toJson` writes them in that format.

## Contents

* `Schema` — the forms;
* `Schema.describe`, `Schema.Root.toJson` — their written description.
-/

namespace MapBallot.Json

/-- A form that documents may have. -/
inductive Schema
  /-- Any text. -/
  | text
  /-- One of the given texts. -/
  | oneOf (description : String) (values : List String)
  /-- A whole number from `low` to `high`. -/
  | integer (low high : Nat)
  /-- A number from `low` to `high`. -/
  | number (low high : Nat)
  /-- A sequence of documents of one form. -/
  | listOf (items : Schema)
  /-- An object whose members all have one form, whatever their names. -/
  | dictionaryOf (values : Schema)
  /-- An object with exactly these members. -/
  | record (members : List (String × Schema))
  /-- The form with this name. -/
  | ref (name : String)

/-- Bounds are written as doubles, also where they bound whole numbers. -/
def boundsToJson (low high : Nat) : List (String × Json) :=
  [("maximum", .ofFloat high.toUInt64.toFloat), ("minimum", .ofFloat low.toUInt64.toFloat)]

namespace Schema

/-- The declaration of the kind of a document. -/
def kind (name : String) : String × Json := ("type", .string name)

mutual

/-- The members of a written description. -/
def describe : Schema → List (String × Json)
  | .text => [kind "string"]
  | .oneOf description values =>
    [("description", .string description), kind "string", ("enum", .ofStrings values)]
  | .integer low high => [kind "integer", ("format", .string "int64")] ++ boundsToJson low high
  | .number low high => [kind "number", ("format", .string "double")] ++ boundsToJson low high
  | .listOf items => [kind "array", ("items", .object (describe items))]
  | .dictionaryOf values => [kind "object", ("additionalProperties", .object (describe values))]
  | .record members =>
    [kind "object", ("required", .ofStrings (members.map (·.1))),
      ("properties", .object (describeMembers members)), ("additionalProperties", .bool false)]
  | .ref name => [("$ref", .string ("#/definitions/" ++ name))]

/-- The descriptions of named forms. -/
def describeMembers : List (String × Schema) → List (String × Json)
  | [] => []
  | (name, s) :: rest => (name, .object (describe s)) :: describeMembers rest

end

/-- A form with a title, a description, and the named forms that it refers to. -/
structure Root where
  title : String
  description : String
  form : Schema
  definitions : List (String × Schema)

/-- The written description of a form and of those that it refers to. -/
def Root.toJson (r : Root) : Json :=
  .object ([("$schema", .string "http://json-schema.org/draft-07/schema#"),
    ("title", .string r.title), ("description", .string r.description)] ++ r.form.describe ++
    [("definitions", .object (describeMembers r.definitions))])

end Schema

end MapBallot.Json
