import MapBallot.Proofs.Json.Abbreviation
import MapBallot.Proofs.Weighting.Validation

/-!
# `MapBallot.Proofs.Weighting.Form` — the form of weighting documents

Operators check their documents against the exported schema, and the loader reads them by itself. The
loader takes more: a record may be written as a sequence of its fields, and an environment as an object
that has its name for the only member. The schema has no such abbreviations. Apart from them the two
agree: with the abbreviations spelled out, whatever the loader accepts passes the schema, and means the
same.

## Contents

* `Schema.Admits`, `Schema.Root.Admits` — the documents that a schema describes;
* `Environment.spelledOut`, `Entry.spelledOut`, `Document.spelledOut` — documents without abbreviations;
* `ignores_entry`, `ignores_document` — they are read as the same;
* `Entry.Form`, `Document.Form`, `reads_entry`, `reads_document` — what the loader reads;
* `admits_record`, `admits_entry`, `admits_document` — what is read and valid passes the schema;
* `spelledOut_of_admits` — the schema has no abbreviations;
* `ofText_form` — what is accepted, against the schema; `ofText_sequence` — an accepted abbreviation.
-/

namespace MapBallot

namespace Json.Schema

/-- The documents that a form describes, where `forms` are the named forms. The bounds of a number are
those of the double that it is read as, and a double without a fraction is a whole number, too. -/
inductive Admits (forms : List (String × Schema)) : Schema → Json → Prop
  | text (s : String) : Admits forms .text (.string s)
  | oneOf {description : String} {values : List String} {s : String} (listed : s ∈ values) :
      Admits forms (.oneOf description values) (.string s)
  | integer {low high : Nat} {z : Int} (least : low ≤ z) (greatest : z ≤ high) :
      Admits forms (.integer low high) (.number (.integer z))
  | whole {low high : Nat} {x : Float} (whole : x.floor = x)
      (least : Scalar.le (Scalar.ofNat low) x = true)
      (greatest : Scalar.le x (Scalar.ofNat high) = true) :
      Admits forms (.integer low high) (.number (.real x))
  | number {low high : Nat} {n : Number} (least : Scalar.le (Scalar.ofNat low) n.toFloat = true)
      (greatest : Scalar.le n.toFloat (Scalar.ofNat high) = true) :
      Admits forms (.number low high) (.number n)
  | listOf {items : Schema} {js : List Json} (each : ∀ j ∈ js, Admits forms items j) :
      Admits forms (.listOf items) (.array js)
  | dictionaryOf {values : Schema} {ms : List (String × Json)}
      (each : ∀ m ∈ ms, Admits forms values m.2) : Admits forms (.dictionaryOf values) (.object ms)
  | record {members : List (String × Schema)} {ms : List (String × Json)}
      (complete : ∀ member ∈ members, ∃ j, (member.1, j) ∈ ms)
      (known : ∀ m ∈ ms, m.1 ∈ members.map Prod.fst)
      (each : ∀ m ∈ ms, ∀ s, (m.1, s) ∈ members → Admits forms s m.2) :
      Admits forms (.record members) (.object ms)
  | ref {name : String} {s : Schema} {j : Json} (found : (name, s) ∈ forms)
      (admits : Admits forms s j) : Admits forms (.ref name) j

/-- Each member of an object has the form that is given for its name. -/
theorem Admits.of_members {forms members : List (String × Schema)} {ms : List (String × Json)}
    (distinct : (members.map Prod.fst).Nodup) (complete : ∀ name ∈ members.map Prod.fst, ∃ j, (name, j) ∈ ms)
    (each : ∀ m ∈ ms, ∃ s, (m.1, s) ∈ members ∧ Admits forms s m.2) :
    Admits forms (.record members) (.object ms) := by
  refine .record (fun member mem => complete _ (List.mem_map_of_mem mem)) (fun m mem => ?_)
    fun m mem s listed => ?_
  · obtain ⟨s, listed, _⟩ := each m mem
    exact List.mem_map_of_mem (f := Prod.fst) listed
  · obtain ⟨s', listed', admits⟩ := each m mem
    have same : (m.1, s') = (m.1, s) := List.inj_on_of_nodup_map distinct listed' listed rfl
    obtain rfl := (Prod.mk.inj same).2
    exact admits

/-- The documents that a schema describes. -/
def Root.Admits (r : Root) : Json → Prop := Schema.Admits r.definitions r.form

end Json.Schema

open Json (Schema Forms Codec Spellings spellItems spellValues)
open Json.Codec (Reads Naming Ignores)

/-- An environment that is written as an object, by its name. -/
def Environment.spelledOut : Json → Json
  | .object [(name, .null)] => .string name
  | j => j

namespace Weighting

variable {Member α : Type}

/-! ## Abbreviations -/

/-- A group with its fields by their names; `listed` names the field of its members. -/
def Entry.spelledOut (listed : String) (member : Json → Json) : Json → Json :=
  Spellings.spellOut [("weight", id), ("repeat_decay", id), (listed, spellItems member)]

/-- The map groups of a document, spelled out. -/
def groupsSpelledOut : Json → Json := spellValues (Entry.spelledOut "maps" id)

/-- The environment groups of a document, spelled out. -/
def environmentsSpelledOut : Json → Json :=
  spellValues (Entry.spelledOut "environments" Environment.spelledOut)

/-- A document without abbreviations. -/
def Document.spelledOut : Json → Json :=
  Spellings.spellOut [("groups", groupsSpelledOut), ("environments", environmentsSpelledOut)]

/-! ## Abbreviations do not change what is read -/

theorem Entry.fields_distinct {decay : Codec α} {listed : String} {member : Codec Member}
    (distinct : listed ≠ "weight" ∧ listed ≠ "repeat_decay") :
    ((Entry.fields decay listed member).map Json.Field.name).Nodup := by
  simp [Entry.fields, Json.Field.required, Ne.symm distinct.1, Ne.symm distinct.2]

theorem Document.fields_distinct (decay : Codec α) :
    ((Document.fields decay).map Json.Field.name).Nodup := by
  simp [Document.fields, Json.Field.required]

theorem ignores_environment : Ignores Environment.codec.read Environment.spelledOut := by
  intro j
  unfold Environment.spelledOut
  split
  · next name =>
    show Codec.lookup _ _ name = Codec.lookup _ _ name >>= pure
    cases Codec.lookup _ _ name <;> rfl
  · rfl

theorem ignores_entry {decay : Codec α} {heading listed : String} {member : Codec Member}
    {item : Json → Json} (distinct : listed ≠ "weight" ∧ listed ≠ "repeat_decay")
    (same : Ignores member.read item) :
    Ignores (Entry.codec decay heading listed member).read (Entry.spelledOut listed item) := by
  intro j
  have fit : Spellings.Fit _ (Entry.fields decay listed member) :=
    .required (fun _ => rfl) <| .required (fun _ => rfl) <|
      .required (Codec.ignores_spellItems same) .nil
  exact congrArg (Except.map _) (Json.ignores_spellOut rfl (Entry.fields_distinct distinct) fit j)

theorem ignores_entries {entry : Codec (Entry Member α)} {value : Json → Json}
    (same : Ignores entry.read value) : Ignores (Entries.codec entry).read (spellValues value) :=
  Codec.ignores_spellValues same

/-- **Abbreviations do not change what is read.** -/
theorem ignores_document (decay : Codec α) :
    Ignores (Document.codec decay).read Document.spelledOut := by
  intro j
  have fit : Spellings.Fit _ (Document.fields decay) :=
    .required (ignores_entries (ignores_entry (by decide) fun _ => rfl)) <|
      .required (ignores_entries (ignores_entry (by decide) ignores_environment)) .nil
  exact congrArg (Except.map _) (Json.ignores_spellOut rfl (Document.fields_distinct decay) fit j)

/-! ## What the loader reads -/

/-- The members of a group, where `R` says how one member is written. -/
def Listed (R : Json → Member → Prop) (j : Json) (members : List Member) : Prop :=
  ∃ js, j = .array js ∧ List.Forall₂ R js members

/-- How the fields of a group are written. -/
def Entry.forms (listed : String) (member : Codec Member) (R : Json → Member → Prop) :
    Forms (Entry.fields .real listed member) :=
  (fun j z => j = .number (.integer z), fun j x => ∃ n : Json.Number, j = .number n ∧ n.toFloat = x,
    Listed R, ())

/-- How a group is written. -/
def Entry.Form (listed : String) (member : Codec Member) (R : Json → Member → Prop) (j : Json)
    (e : Entry Member Float) : Prop :=
  Forms.Record _ (Entry.forms listed member R) j (e.weight, e.repeatDecay, e.members, ())

/-- How named groups are written. -/
def Entries.Form (entry : Json → Entry Member Float → Prop) (j : Json) (es : Entries Member Float) :
    Prop :=
  ∃ ms : List (String × Json), j = .object ms ∧ List.Forall₂ (fun m e => m.1 = e.1 ∧ entry m.2 e.2) ms es

/-- How map groups are written. -/
def GroupsForm : Json → Entries String Float → Prop :=
  Entries.Form (Entry.Form "maps" .text fun j s => j = .string s)

/-- How environment groups are written. -/
def EnvironmentsForm : Json → Entries Environment Float → Prop :=
  Entries.Form (Entry.Form "environments" Environment.codec (Naming Environment.ofName?))

/-- How the fields of a document are written. -/
def Document.forms : Forms (Document.fields .real) := (GroupsForm, EnvironmentsForm, ())

/-- How a document is written. -/
def Document.Form (j : Json) (d : Document Float) : Prop :=
  Forms.Record _ Document.forms j (d.groups, d.environments, ())

theorem reads_entry {heading listed : String} {member : Codec Member} {R : Json → Member → Prop}
    (distinct : listed ≠ "weight" ∧ listed ≠ "repeat_decay") (h : Reads member.read R) :
    Reads (Entry.codec .real heading listed member).read (Entry.Form listed member R) := by
  intro d e read
  obtain ⟨vs, values, rfl⟩ := Json.Codec.map_eq_ok read
  have read : Forms.Read _ (Entry.forms listed member R) :=
    .required Json.Codec.reads_signed64 <| .required Json.Codec.reads_real <|
      .required (Json.Codec.reads_list h) trivial
  exact Json.reads_record rfl (Entry.fields_distinct distinct) read d vs values

theorem reads_entries {entry : Codec (Entry Member Float)} {R : Json → Entry Member Float → Prop}
    (h : Reads entry.read R) : Reads (Entries.codec entry).read (Entries.Form R) := by
  refine (Json.Codec.reads_dictionary h).mono ?_
  rintro j es ⟨ms, rfl, all⟩
  exact ⟨ms, rfl, all.imp fun _ _ ⟨named, holds⟩ => ⟨Except.ok.inj named, holds⟩⟩

/-- **What the loader reads.** -/
theorem reads_document : Reads (Document.codec .real).read Document.Form := by
  intro d doc read
  obtain ⟨vs, values, rfl⟩ := Json.Codec.map_eq_ok read
  have read : Forms.Read _ Document.forms :=
    .required (reads_entries (reads_entry (by decide) Json.Codec.reads_text)) <|
      .required (reads_entries (reads_entry (by decide) (Json.Codec.reads_named _ _ _))) trivial
  exact Json.reads_record rfl (Document.fields_distinct _) read d vs values

/-! ## What is read passes the schema -/

variable {forms : List (String × Schema)} {listed : String} {member : Codec Member}
  {R : Json → Member → Prop} {item : Json → Json} {items : Schema} {j : Json}

/-- What is on the left of a relation between lists stands to something on the right. -/
theorem exists_of_forall₂ {α β : Type} {R : α → β → Prop} {as : List α} {bs : List β}
    (h : List.Forall₂ R as bs) {a : α} (mem : a ∈ as) : ∃ b ∈ bs, R a b := by
  induction h with
  | nil => cases mem
  | cons holds _ ih =>
    rcases List.mem_cons.1 mem with rfl | mem
    · exact ⟨_, .head _, holds⟩
    · obtain ⟨b, later, holds⟩ := ih mem
      exact ⟨b, .tail _ later, holds⟩

/-- A record passes when the spelled-out values of its fields do. -/
theorem admits_record {fs : List Json.Field} {Rs : Forms fs} {vs : Json.Values fs} {parts : Spellings}
    {members : List (String × Schema)} (distinct : (members.map Prod.fst).Nodup)
    (fields : ∀ name ∈ members.map Prod.fst, name ∈ fs.map Json.Field.name)
    (names : parts.map Prod.fst = fs.map Json.Field.name) (form : Forms.Record fs Rs j vs)
    (each : ∀ m, Forms.Holds fs Rs vs m →
      ∃ s, (m.1, s) ∈ members ∧ Schema.Admits forms s (parts.member m).2) :
    Schema.Admits forms (.record members) (parts.spellOut j) := by
  obtain ⟨ms, spelled, holds, complete⟩ := form.spellOut names
  rw [spelled]
  refine .of_members distinct (fun name mem => ?_) fun m mem => ?_
  · obtain ⟨j, given⟩ := complete name (fields name mem)
    exact ⟨_, List.mem_map_of_mem given⟩
  · obtain ⟨m, given, rfl⟩ := List.mem_map.1 mem
    exact each m (holds m given)

theorem admits_members {members : List Member} (h : Listed R j members)
    (each : ∀ j m, R j m → Schema.Admits forms items (item j)) :
    Schema.Admits forms (.listOf items) (spellItems item j) := by
  obtain ⟨js, rfl, all⟩ := h
  refine .listOf fun j' mem => ?_
  obtain ⟨j, given, rfl⟩ := List.mem_map.1 mem
  obtain ⟨m, _, holds⟩ := exists_of_forall₂ all given
  exact each j m holds

/-- A group whose weight and decay are in their ranges passes when it is spelled out. -/
theorem admits_entry {e : Entry Member Float} (distinct : listed ≠ "weight" ∧ listed ≠ "repeat_decay")
    (form : Entry.Form listed member R j e) (weight : weightInRange e.weight)
    (decay : Scalar.le (Scalar.ofNat 0) e.repeatDecay = true ∧
      Scalar.le e.repeatDecay (Scalar.ofNat 1) = true)
    (each : ∀ j m, R j m → Schema.Admits forms items (item j)) :
    Schema.Admits forms (Document.entrySchema listed items) (Entry.spelledOut listed item j) := by
  have names : (([(listed, .listOf items), ("repeat_decay", .number 0 1), ("weight", .integer 0 100)] :
      List (String × Schema)).map Prod.fst).Nodup := by simp [distinct.1, distinct.2]
  -- The bounds of the schema are those that validation has checked.
  refine admits_record names ?_ rfl form ?_
  · simp [Entry.fields, Json.Field.required]
  · rintro ⟨name, j⟩ (⟨rfl, rfl⟩ | ⟨rfl, n, rfl, value⟩ | ⟨rfl, members⟩ | none)
    · refine ⟨.integer 0 100, .tail _ (.tail _ (.head _)), ?_⟩
      exact .integer weight.1 weight.2
    · refine ⟨.number 0 1, .tail _ (.head _), ?_⟩
      exact .number (value ▸ decay.1) (value ▸ decay.2)
    · refine ⟨.listOf items, .head _, ?_⟩
      dsimp only [Json.Field.required]
      rw [Spellings.member_other distinct.1, Spellings.member_other distinct.2, Spellings.member_own]
      exact admits_members members each
    · cases none

/-- Valid groups pass when they are spelled out. -/
theorem admits_entries {axis : Axis Member} {es : Entries Member Float}
    (distinct : listed ≠ "weight" ∧ listed ≠ "repeat_decay") {name : String}
    (found : (name, Document.entrySchema listed items) ∈ forms)
    (form : Entries.Form (Entry.Form listed member R) j es) (valid : axis.Valid es)
    (each : ∀ j m, R j m → Schema.Admits forms items (item j)) :
    Schema.Admits forms (.dictionaryOf (.ref name)) (spellValues (Entry.spelledOut listed item) j) := by
  obtain ⟨ms, rfl, all⟩ := form
  refine .dictionaryOf fun m mem => .ref found ?_
  obtain ⟨m, given, rfl⟩ := List.mem_map.1 mem
  obtain ⟨e, valued, _, holds⟩ := exists_of_forall₂ all given
  exact admits_entry distinct holds (valid.weight e valued) (valid.decay e valued) each

theorem admits_environment {e : Environment} (h : Naming Environment.ofName? j e) :
    Schema.Admits Document.schema.definitions (.ref "Environment") (Environment.spelledOut j) := by
  have listed (name : String) (found : Environment.ofName? name = some e) :
      Schema.Admits Document.schema.definitions (.ref "Environment") (.string name) := by
    refine .ref (.head _) (.oneOf ?_)
    unfold Environment.ofName? at found
    obtain rfl : e.name = name := by simpa using List.find?_some found
    exact List.mem_map_of_mem (List.mem_of_find?_eq_some found)
  cases h with
  | plain found => exact listed _ found
  | wrapped found => exact listed _ found

/-- **What is read and valid passes the schema when it is spelled out.** -/
theorem admits_document {d : Document Float} (form : Document.Form j d)
    (groups : Axis.map.Valid d.groups) (environments : Axis.environment.Valid d.environments) :
    Document.schema.Admits (Document.spelledOut j) := by
  refine admits_record (by decide) (by decide) rfl form ?_
  rintro ⟨name, j⟩ (⟨rfl, form⟩ | ⟨rfl, form⟩ | none)
  · refine ⟨.dictionaryOf (.ref "MapGroupEntry"), .tail _ (.head _), ?_⟩
    exact admits_entries (by decide) (.tail _ (.tail _ (.head _))) form groups fun j s text =>
      text ▸ .text s
  · refine ⟨.dictionaryOf (.ref "EnvironmentGroupEntry"), .head _, ?_⟩
    exact admits_entries (by decide) (.tail _ (.head _)) form environments fun j e => admits_environment
  · cases none

/-! ## The schema has no abbreviations -/

/-- A record that passes is an object; its parts need not change what its fields admit. -/
theorem spellOut_of_admits {parts : Spellings} {members : List (String × Schema)}
    (h : Schema.Admits forms (.record members) j)
    (each : ∀ part ∈ parts, ∃ s, (part.1, s) ∈ members ∧
      ∀ j, Schema.Admits forms s j → part.2 j = j) : parts.spellOut j = j := by
  cases h with
  | @record _ ms _ _ admits =>
    have same (m : String × Json) (mem : m ∈ ms) : parts.member m = m := by
      refine Spellings.member_eq_self fun part known => ?_
      obtain ⟨s, listed, leaves⟩ := each _ known
      exact leaves m.2 (admits m mem s listed)
    rw [Spellings.spellOut, List.map_congr_left same, List.map_id']

theorem spellItems_of_admits (h : Schema.Admits forms (.listOf items) j)
    (each : ∀ j, Schema.Admits forms items j → item j = j) : spellItems item j = j := by
  cases h with
  | @listOf _ js admits =>
    rw [spellItems, List.map_congr_left fun j mem => each j (admits j mem), List.map_id']

theorem spellValues_of_admits {s : Schema} {value : Json → Json}
    (h : Schema.Admits forms (.dictionaryOf s) j)
    (each : ∀ j, Schema.Admits forms s j → value j = j) : spellValues value j = j := by
  cases h with
  | @dictionaryOf _ ms admits =>
    have same (m : String × Json) (mem : m ∈ ms) : (m.1, value m.2) = m := by
      rw [each _ (admits m mem)]
    rw [spellValues, List.map_congr_left same, List.map_id']

theorem entry_spelledOut_of_admits (h : Schema.Admits forms (Document.entrySchema listed items) j)
    (each : ∀ j, Schema.Admits forms items j → item j = j) : Entry.spelledOut listed item j = j := by
  refine spellOut_of_admits h (List.forall_mem_cons.2 ⟨?_, List.forall_mem_cons.2 ⟨?_,
    List.forall_mem_singleton.2 ?_⟩⟩)
  · exact ⟨_, .tail _ (.tail _ (.head _)), fun _ _ => rfl⟩
  · exact ⟨_, .tail _ (.head _), fun _ _ => rfl⟩
  · exact ⟨_, .head _, fun _ admits => spellItems_of_admits admits each⟩

theorem environment_spelledOut_of_admits
    (h : Schema.Admits Document.schema.definitions (.ref "Environment") j) :
    Environment.spelledOut j = j := by
  cases h with
  | ref found admits =>
    obtain rfl : _ = Schema.oneOf _ _ := by simpa [Document.schema] using found
    cases admits with
    | oneOf => rfl

/-- **What passes the schema has no abbreviations.** -/
theorem spelledOut_of_admits (h : Document.schema.Admits j) : Document.spelledOut j = j := by
  refine spellOut_of_admits h (List.forall_mem_cons.2 ⟨⟨_, .tail _ (.head _), fun j groups => ?_⟩,
    List.forall_mem_singleton.2 ⟨_, .head _, fun j environments => ?_⟩⟩)
  · refine spellValues_of_admits groups fun j entry => ?_
    cases entry with
    | ref found admits =>
      obtain rfl : _ = Document.entrySchema _ _ := by simpa [Document.schema] using found
      exact entry_spelledOut_of_admits admits fun _ _ => rfl
  · refine spellValues_of_admits environments fun j entry => ?_
    cases entry with
    | ref found admits =>
      obtain rfl : _ = Document.entrySchema _ _ := by simpa [Document.schema] using found
      exact entry_spelledOut_of_admits admits fun _ => environment_spelledOut_of_admits

/-! ## What is accepted, against the schema -/

/-- **A text without its abbreviations** gives the same parameters, or the same problem. -/
theorem Parameters.ofText_spelledOut {text other : String} (parsed : Json.parse? text = some j)
    (spelled : Json.parse? other = some (Document.spelledOut j)) :
    Parameters.ofText other = Parameters.ofText text := by
  unfold Parameters.ofText
  rw [Json.ofText_of_parse? _ parsed, Json.ofText_of_parse? _ spelled, ignores_document]

/-- **The form of accepted texts.** An accepted text is a document that passes the schema when its
abbreviations are spelled out, and then gives the same parameters. It passes the schema as it stands exactly
if it has none. -/
theorem Parameters.ofText_form {text : String} {p : Parameters Float}
    (accepted : Parameters.ofText text = .ok p) :
    ∃ j, Json.parse? text = some j ∧ Document.schema.Admits (Document.spelledOut j) ∧
      (Document.schema.Admits j ↔ Document.spelledOut j = j) ∧
      ∀ other, Json.parse? other = some (Document.spelledOut j) → Parameters.ofText other = .ok p := by
  have given := accepted
  unfold Parameters.ofText at accepted
  cases document : (Document.codec .real).ofText text with
  | error fault =>
    rw [document] at accepted
    cases accepted
  | ok d =>
    rw [document] at accepted
    dsimp only at accepted
    obtain ⟨j, parsed, form⟩ := Json.parse?_of_ofText reads_document document
    rw [Parameters.ofDocument_eq, unlessAny_eq_ok_iff, Document.violations_eq_nil_iff] at accepted
    -- The document is well formed by its reader, and valid because there was no problem.
    obtain ⟨⟨groups, environments⟩, _⟩ := accepted
    have passes := admits_document form groups environments
    exact ⟨j, parsed, passes, ⟨spelledOut_of_admits, fun plain => plain ▸ passes⟩,
      fun other spelled => (Parameters.ofText_spelledOut parsed spelled).trans given⟩

/-- A text that abbreviates the document, a group and an environment. -/
def shortText : String :=
  "[\x7b\"Top\":[80,0.5,[\"foy\"]]\x7d," ++
    "\x7b\"Day\":\x7b\"environments\":[\x7b\"day\":null\x7d],\"weight\":100,\"repeat_decay\":1\x7d\x7d]"

theorem ofText_form_short :
    ∃ p, Parameters.ofText shortText = .ok p ∧ p.mapGroups.map Group.members = [["foy"]] ∧
      ∃ j, Json.parse? shortText = some j ∧ Document.schema.Admits (Document.spelledOut j) := by
  have accepted : (Parameters.ofText shortText).map (·.mapGroups.map Group.members) = .ok [["foy"]] := by
    decide +kernel
  obtain ⟨p, accepted, members⟩ := Json.Codec.map_eq_ok accepted
  obtain ⟨j, parsed, passes, _⟩ := Parameters.ofText_form accepted
  exact ⟨p, accepted, members, j, parsed, passes⟩

/-- A text that abbreviates the document only. -/
def sequenceText : String :=
  "[\x7b\"Top\":\x7b\"weight\":80,\"repeat_decay\":0.5,\"maps\":[\"foy\"]\x7d\x7d," ++
    "\x7b\"Day\":\x7b\"weight\":100,\"repeat_decay\":0.1,\"environments\":[\"day\"]\x7d\x7d]"

/-- The document is a sequence. -/
def isSequence : Json → Bool
  | .array _ => true
  | _ => false

/-- A sequence of groups is accepted, although it is not an object and does not pass the schema. -/
theorem ofText_sequence :
    (∃ p, Parameters.ofText sequenceText = .ok p) ∧
      ∃ js, Json.parse? sequenceText = some (.array js) ∧ ¬ Document.schema.Admits (.array js) := by
  have accepted : (Parameters.ofText sequenceText).map (fun _ => ()) = .ok () := by decide +kernel
  have sequence : ((Json.parse? sequenceText).map isSequence) = some true := by
    decide +kernel
  obtain ⟨p, accepted, _⟩ := Json.Codec.map_eq_ok accepted
  obtain ⟨j, parsed, kind⟩ := Option.map_eq_some_iff.1 sequence
  cases j with
  | array js =>
    refine ⟨⟨p, accepted⟩, js, parsed, fun admits => ?_⟩
    cases admits
  | null | bool | number | string | object => cases kind

end Weighting

end MapBallot
