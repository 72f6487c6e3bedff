import Mathlib.Data.List.Forall2
import MapBallot.Json.Codec

/-!
# `MapBallot.Proofs.Json.Codec` — what readers accept

A reader walks a draft, which need not be a document. This module states, kind by kind, that a reader
that answers has read a document to its end, and of which form that document is.

## Contents

* `Draft.ofItems_eq_map`, `Draft.toJson?_ofJson`, `Draft.eq_ofJson` — drafts of documents;
* `Codec.Reads` — a reader accepts documents of a form only;
* `reads_text`, `reads_signed64`, `reads_real`, `reads_named`, `reads_list`, `reads_dictionary`;
* `parse?_of_ofText`, `ofText_of_parse?` — texts.
-/

namespace MapBallot.Json

variable {α β : Type}

/-! ## Drafts of documents -/

namespace Draft

theorem ofItems_eq_map (js : List Json) : ofItems js = js.map ofJson := by
  induction js with
  | nil => rfl
  | cons j js ih => rw [ofItems, ih, List.map_cons]

theorem ofMembers_eq_map (ms : List (String × Json)) :
    ofMembers ms = ms.map fun m => (.string (some m.1), ofJson m.2) := by
  induction ms with
  | nil => rfl
  | cons m ms ih => rw [ofMembers, ih, List.map_cons]

theorem ofJson_array (js : List Json) : ofJson (.array js) = .array (js.map ofJson) true := by
  rw [ofJson, ofItems_eq_map]

theorem ofJson_object (ms : List (String × Json)) :
    ofJson (.object ms) = .object (ms.map fun m => (.string (some m.1), ofJson m.2)) true := by
  rw [ofJson, ofMembers_eq_map]

mutual

/-- The draft of a document spells out that document. -/
theorem toJson?_ofJson : ∀ j : Json, (ofJson j).toJson? = some j
  | .null | .bool _ | .number _ | .string _ => by simp [ofJson, toJson?]
  | .array js => by simp [ofJson, toJson?, itemsToJson?_ofItems js]
  | .object ms => by simp [ofJson, toJson?, membersToJson?_ofMembers ms]

theorem itemsToJson?_ofItems : ∀ js : List Json, itemsToJson? (ofItems js) = some js
  | [] => by simp [ofItems, itemsToJson?]
  | j :: js => by simp [ofItems, itemsToJson?, toJson?_ofJson j, itemsToJson?_ofItems js]

theorem membersToJson?_ofMembers :
    ∀ ms : List (String × Json), membersToJson? (ofMembers ms) = some ms
  | [] => by simp [ofMembers, membersToJson?]
  | (k, j) :: ms => by
    simp [ofMembers, membersToJson?, toJson?_ofJson j, membersToJson?_ofMembers ms]

end

mutual

/-- No other draft spells out a document. -/
theorem eq_ofJson : ∀ {d : Draft} {j : Json}, d.toJson? = some j → d = ofJson j
  | .null, _, h | .bool _, _, h => by
    rw [toJson?] at h
    obtain rfl := Option.some.inj h
    rfl
  | .number n, _, h | .string s, _, h => by
    rw [toJson?, Option.map_eq_some_iff] at h
    obtain ⟨_, rfl, rfl⟩ := h
    rfl
  | .array items closed, _, h => by
    rw [toJson?, Option.ite_none_right_eq_some, Option.map_eq_some_iff] at h
    obtain ⟨rfl, js, given, rfl⟩ := h
    rw [ofJson, eq_ofItems given]
  | .object members closed, _, h => by
    rw [toJson?, Option.ite_none_right_eq_some, Option.map_eq_some_iff] at h
    obtain ⟨rfl, ms, given, rfl⟩ := h
    rw [ofJson, eq_ofMembers given]

theorem eq_ofItems : ∀ {ds : List Draft} {js : List Json}, itemsToJson? ds = some js → ds = ofItems js
  | [], _, h => by
    rw [itemsToJson?] at h
    obtain rfl := Option.some.inj h
    rfl
  | d :: ds, _, h => by
    rw [itemsToJson?, Option.bind_eq_some_iff] at h
    obtain ⟨j, first, h⟩ := h
    obtain ⟨js, later, rfl⟩ := Option.map_eq_some_iff.1 h
    rw [ofItems, eq_ofJson first, eq_ofItems later]

theorem eq_ofMembers : ∀ {ds : List (Draft × Draft)} {ms : List (String × Json)},
    membersToJson? ds = some ms → ds = ofMembers ms
  | [], _, h => by
    rw [membersToJson?] at h
    obtain rfl := Option.some.inj h
    rfl
  | (k, d) :: ds, _, h => by
    rcases k with _ | _ | _ | _ | name | _ | _ <;> try cases h
    cases name with
    | none => cases h
    | some name =>
      rw [membersToJson?, Option.bind_eq_some_iff] at h
      obtain ⟨j, first, h⟩ := h
      obtain ⟨ms, later, rfl⟩ := Option.map_eq_some_iff.1 h
      rw [ofMembers, eq_ofJson first, eq_ofMembers later]

end

end Draft

namespace Codec

/-! ## Readers that accept documents of a form -/

/-- The reader accepts nothing but whole documents, and these stand to its answers as `R` says. -/
def Reads (read : Draft → Except Fault α) (R : Json → α → Prop) : Prop :=
  ∀ d a, read d = .ok a → ∃ j, d = .ofJson j ∧ R j a

theorem Reads.mono {read : Draft → Except Fault α} {R S : Json → α → Prop} (h : Reads read R)
    (implies : ∀ j a, R j a → S j a) : Reads read S := by
  intro d a hd
  obtain ⟨j, rfl, holds⟩ := h d a hd
  exact ⟨j, rfl, implies j a holds⟩

/-- A fault is no answer. -/
theorem bind_eq_ok {ε : Type} {x : Except ε α} {f : α → Except ε β} {b : β}
    (h : (x >>= f) = .ok b) : ∃ a, x = .ok a ∧ f a = .ok b := by
  cases x with
  | error e => cases h
  | ok a => exact ⟨a, rfl, h⟩

theorem map_eq_ok {ε : Type} {x : Except ε α} {f : α → β} {b : β} (h : x.map f = .ok b) :
    ∃ a, x = .ok a ∧ f a = b := by
  cases x with
  | error e => cases h
  | ok a => exact ⟨a, rfl, Except.ok.inj h⟩

theorem reads_text : Reads text.read fun j s => j = .string s := by
  intro d s h
  rcases d with _ | _ | _ | _ | s' | _ | _ <;> try cases h
  cases s' with
  | none => cases h
  | some s' =>
    obtain rfl := Except.ok.inj h
    exact ⟨_, rfl, rfl⟩

theorem reads_signed64 : Reads signed64.read fun j z => j = .number (.integer z) := by
  intro d z h
  rcases d with _ | _ | _ | n | _ | _ | _ <;> try cases h
  rcases n with _ | z' | x <;> try cases h
  have accepted : (if _ then _ else _) = Except.ok z := h
  split at accepted
  · obtain rfl := Except.ok.inj accepted
    exact ⟨_, rfl, rfl⟩
  · cases accepted

end Codec

/-- The double that a number is read as. -/
def Number.toFloat : Number → Float
  | .integer z => if z < 0 then -(-z).toNat.toUInt64.toFloat else z.toNat.toUInt64.toFloat
  | .real x => x

namespace Codec

theorem reads_real : Reads real.read fun j x => ∃ n : Number, j = .number n ∧ n.toFloat = x := by
  intro d x h
  rcases d with _ | _ | _ | n | _ | _ | _ <;> try cases h
  rcases n with _ | z | y
  · cases h
  all_goals
    obtain rfl := Except.ok.inj h
    exact ⟨_, rfl, _, rfl, rfl⟩

/-- A member of a closed set is written as its name, or as an object with that name only. -/
inductive Naming (ofName? : String → Option α) : Json → α → Prop
  | plain {name : String} {a : α} (found : ofName? name = some a) : Naming ofName? (.string name) a
  | wrapped {name : String} {a : α} (found : ofName? name = some a) :
      Naming ofName? (.object [(name, .null)]) a

theorem lookup_eq_ok {names : List String} {ofName? : String → Option α} {name : String} {a : α}
    (h : lookup names ofName? name = .ok a) : ofName? name = some a := by
  unfold lookup at h
  split at h
  · next found =>
    obtain rfl := Except.ok.inj h
    exact found
  · cases h

theorem reads_named (names : List String) (ofName? : String → Option α) (name : α → String) :
    Reads (named names ofName? name).read (Naming ofName?) := by
  intro d a h
  rcases d with _ | _ | _ | _ | s | _ | ⟨members, closed⟩ <;> try cases h
  · cases s with
    | none => cases h
    | some s => exact ⟨_, rfl, .plain (lookup_eq_ok h)⟩
  · rcases members with _ | ⟨⟨key, value⟩, others⟩
    · cases h
    rcases key with _ | _ | _ | _ | s | _ | _ <;> try cases h
    cases s with
    | none => cases h
    | some s =>
      obtain ⟨b, found, rest⟩ := bind_eq_ok h
      cases value with
      | null =>
        have last : (if others.isEmpty && closed then pure b else throw Fault.malformed) = Except.ok a :=
          rest
        split at last
        · next whole =>
          obtain ⟨empty, rfl⟩ := Bool.and_eq_true_iff.1 whole
          obtain rfl := List.isEmpty_iff.1 empty
          obtain rfl := Except.ok.inj last
          exact ⟨.object [(s, .null)], by rw [Draft.ofJson_object]; rfl, .wrapped (lookup_eq_ok found)⟩
        · cases last
      | broken | bool | number | string | array | object => cases rest

theorem readItems_eq_ok {c : Codec α} {R : Json → α → Prop} (h : Reads c.read R) {ds : List Draft}
    {as : List α} (read : c.readItems ds = .ok as) :
    ∃ js, ds = js.map Draft.ofJson ∧ List.Forall₂ R js as := by
  induction ds generalizing as with
  | nil =>
    obtain rfl := Except.ok.inj read
    exact ⟨[], rfl, .nil⟩
  | cons d ds ih =>
    obtain ⟨a, first, read⟩ := bind_eq_ok read
    obtain ⟨as', later, read⟩ := bind_eq_ok read
    obtain rfl := Except.ok.inj read
    obtain ⟨j, rfl, holds⟩ := h d a first
    obtain ⟨js, rfl, all⟩ := ih later
    exact ⟨j :: js, rfl, .cons holds all⟩

theorem reads_list {c : Codec α} {R : Json → α → Prop} (h : Reads c.read R) :
    Reads (list c).read fun j as => ∃ js, j = .array js ∧ List.Forall₂ R js as := by
  intro d as read
  rcases d with _ | _ | _ | _ | _ | ⟨items, closed⟩ | _ <;> try cases read
  obtain ⟨as', items', read⟩ := bind_eq_ok read
  cases closed with
  | false => cases read
  | true =>
    obtain rfl := Except.ok.inj read
    obtain ⟨js, rfl, all⟩ := readItems_eq_ok h items'
    exact ⟨.array js, (Draft.ofJson_array js).symm, js, rfl, all⟩

/-- A member of an object and what is read of it. -/
def Entry (key : String → Except Fault α) (R : Json → β → Prop) (m : String × Json) (e : α × β) : Prop :=
  key m.1 = .ok e.1 ∧ R m.2 e.2

theorem readMembers_eq_ok {key : String → Except Fault α} {value : Codec β} {R : Json → β → Prop}
    (h : Reads value.read R) {ds : List (Draft × Draft)} {es : List (α × β)}
    (read : readMembers key value ds = .ok es) :
    ∃ ms : List (String × Json), ds = ms.map (fun m => (.string (some m.1), .ofJson m.2)) ∧
      List.Forall₂ (Entry key R) ms es := by
  induction ds generalizing es with
  | nil =>
    obtain rfl := Except.ok.inj read
    exact ⟨[], rfl, .nil⟩
  | cons d ds ih =>
    obtain ⟨k, d⟩ := d
    rcases k with _ | _ | _ | _ | s | _ | _ <;> try cases read
    cases s with
    | none => cases read
    | some s =>
      obtain ⟨k, named, read⟩ := bind_eq_ok read
      obtain ⟨b, first, read⟩ := bind_eq_ok read
      obtain ⟨es', later, read⟩ := bind_eq_ok read
      obtain rfl := Except.ok.inj read
      obtain ⟨j, rfl, holds⟩ := h d b first
      obtain ⟨ms, rfl, all⟩ := ih later
      exact ⟨(s, j) :: ms, rfl, .cons ⟨named, holds⟩ all⟩

theorem reads_dictionary {expected : String} {key : String → Except Fault α} {value : Codec β}
    {R : Json → β → Prop} (h : Reads value.read R) :
    Reads (readDictionary expected key value) fun j es =>
      ∃ ms, j = .object ms ∧ List.Forall₂ (Entry key R) ms es := by
  intro d es read
  rcases d with _ | _ | _ | _ | _ | _ | ⟨members, closed⟩ <;> try cases read
  obtain ⟨es', members', read⟩ := bind_eq_ok read
  cases closed with
  | false => cases read
  | true =>
    obtain rfl := Except.ok.inj read
    obtain ⟨ms, rfl, all⟩ := readMembers_eq_ok h members'
    exact ⟨.object ms, (Draft.ofJson_object ms).symm, ms, rfl, all⟩

end Codec

/-! ## Texts -/

/-- A text that is accepted is a document. -/
theorem parse?_of_ofText {c : Codec α} {R : Json → α → Prop} (h : Codec.Reads c.read R) {text : String}
    {a : α} (accepted : c.ofText text = .ok a) : ∃ j, Json.parse? text = some j ∧ R j a := by
  unfold Codec.ofText Codec.readText at accepted
  unfold Json.parse?
  generalize Draft.ofText text = draft at accepted ⊢
  obtain ⟨d, ended⟩ := draft
  dsimp only at accepted
  cases value : c.read d with
  | error e =>
    rw [value] at accepted
    cases accepted
  | ok b =>
    rw [value] at accepted
    cases ended with
    | false => cases accepted
    | true =>
      obtain rfl := Except.ok.inj accepted
      obtain ⟨j, rfl, holds⟩ := h d b value
      exact ⟨j, Draft.toJson?_ofJson j, holds⟩

/-- Of a text that is a document, the document is read. -/
theorem ofText_of_parse? (c : Codec α) {text : String} {j : Json} (parsed : Json.parse? text = some j) :
    c.ofText text = c.read (.ofJson j) := by
  unfold Json.parse? at parsed
  unfold Codec.ofText Codec.readText
  generalize Draft.ofText text = draft at parsed ⊢
  obtain ⟨d, ended⟩ := draft
  cases ended with
  | false => cases parsed
  | true =>
    obtain rfl := Draft.eq_ofJson parsed
    dsimp only
    cases c.read (.ofJson j) <;> rfl

end MapBallot.Json
