import Mathlib.Data.List.Nodup
import MapBallot.Proofs.Json.Codec

/-!
# `MapBallot.Proofs.Json.Record` — reading records

A record is written as an object of its fields, in any order, or as a sequence of their values. The reader
goes through the members of an object once and keeps a slot for each field. What it has in its slots after
some members is stated for these members; at their end, every slot has been filled by exactly one.

## Contents

* `put_own`, `put_other`, `fill_cons`, `fill_own` — one slot and the others;
* `Forms`, `Filled` — a form for each field, and what was read so far of an object;
* `Forms.Record`, `reads_record` — records that refuse unknown fields.
-/

namespace MapBallot.Json

variable {α : Type}

/-- The drafts of members. -/
def memberDrafts (ms : List (String × Json)) : List (Draft × Draft) :=
  ms.map fun m => (.string (some m.1), .ofJson m.2)

/-! ## Slots -/

namespace Slots

variable {f : Field} {fs : List Field}

theorem put_own (slot : Option f.Value) (slots : Slots fs) (d : Draft) :
    Slots.put (f :: fs) (slot, slots) f.name d =
      some (match slot with
        | some _ => .error (.duplicateField f.name)
        | none => (f.read d).map fun v => (some v, slots)) := if_pos (beq_self_eq_true f.name)

theorem put_other (slot : Option f.Value) (slots : Slots fs) (d : Draft) {name : String}
    (apart : f.name ≠ name) :
    Slots.put (f :: fs) (slot, slots) name d =
      (Slots.put fs slots name d).map fun r => r.map fun slots => (slot, slots) :=
  if_neg (by simpa using apart)

/-- A field of the record has a slot. -/
theorem exists_put (slots : Slots fs) {name : String} (known : name ∈ fs.map Field.name) (d : Draft) :
    ∃ r, slots.put fs name d = some r := by
  induction fs with
  | nil => cases known
  | cons f fs ih =>
    obtain ⟨slot, slots⟩ := slots
    by_cases own : f.name = name
    · subst own
      exact ⟨_, put_own slot slots d⟩
    · have later : name ∈ fs.map Field.name := (List.mem_cons.1 known).resolve_left (Ne.symm own)
      obtain ⟨r, put⟩ := ih slots later
      exact ⟨_, (put_other slot slots d own).trans (congrArg _ put)⟩

theorem fill_put {strict : Bool} {slots : Slots fs} {name : String} {d : Draft}
    {r : Except Fault (Slots fs)} (put : slots.put fs name d = some r) (ds : List (Draft × Draft)) :
    slots.fill fs strict ((.string (some name), d) :: ds) = r >>= fun slots => slots.fill fs strict ds := by
  rw [Slots.fill, put]
  cases r <;> rfl

/-- Members of the other fields leave a slot as it is. -/
theorem fill_cons {strict : Bool} (slot : Option f.Value) (slots : Slots fs) {ms : List (String × Json)}
    (apart : ∀ m ∈ ms, f.name ≠ m.1) (known : ∀ m ∈ ms, m.1 ∈ fs.map Field.name) :
    Slots.fill (f :: fs) strict (slot, slots) (memberDrafts ms) =
      (slots.fill fs strict (memberDrafts ms)).map fun slots => (slot, slots) := by
  induction ms generalizing slots with
  | nil => rfl
  | cons m ms ih =>
    obtain ⟨other, others⟩ := List.forall_mem_cons.1 apart
    obtain ⟨first, rest⟩ := List.forall_mem_cons.1 known
    obtain ⟨r, put⟩ := slots.exists_put first (.ofJson m.2)
    have skipped := (put_other slot slots (.ofJson m.2) other).trans (congrArg _ put)
    have member : memberDrafts (m :: ms) = (.string (some m.1), .ofJson m.2) :: memberDrafts ms := rfl
    rw [member, fill_put put, fill_put skipped]
    cases r with
    | error e => rfl
    | ok slots => exact ih slots others rest

/-- A field and the members of the other fields. -/
theorem fill_own (strict : Bool) (slots : Slots fs) (j : Json) {ms : List (String × Json)}
    (apart : ∀ m ∈ ms, f.name ≠ m.1) (known : ∀ m ∈ ms, m.1 ∈ fs.map Field.name) :
    Slots.fill (f :: fs) strict (none, slots) (memberDrafts ((f.name, j) :: ms)) =
      f.read (.ofJson j) >>= fun v =>
        (slots.fill fs strict (memberDrafts ms)).map fun slots => (some v, slots) := by
  have first : Slots.fill (f :: fs) strict (none, slots) (memberDrafts ((f.name, j) :: ms)) =
      ((f.read (.ofJson j)).map fun v => (some v, slots)) >>= fun slots =>
        Slots.fill (f :: fs) strict slots (memberDrafts ms) :=
    fill_put (put_own none slots (.ofJson j)) (memberDrafts ms)
  rw [first]
  cases f.read (.ofJson j) with
  | error e => rfl
  | ok v => exact fill_cons (some v) slots apart known

/-- The values of a field that was read and of the others. -/
theorem finish_cons (v : f.Value) (slots : Slots fs) :
    Slots.finish (f :: fs) (some v, slots) = (slots.finish fs).map fun vs => (v, vs) :=
  Slots.finish.eq_2 f fs (some v) slots

end Slots

/-! ## The forms of a record -/

/-- A form for the values of each field. -/
def Forms : List Field → Type
  | [] => Unit
  | f :: fs => (Json → f.Value → Prop) × Forms fs

namespace Forms

/-- Every field must be given, and its reader accepts documents of its form only. -/
def Read : (fs : List Field) → Forms fs → Prop
  | [], _ => True
  | f :: fs, (R, Rs) => (f.absent = none ∧ f.dropped = none ∧ Codec.Reads f.read R) ∧ Read fs Rs

/-- The items of a sequence give the values of the fields, in their order. -/
def Listed : (fs : List Field) → Forms fs → List Json → Values fs → Prop
  | [], _, js, _ => js = []
  | _ :: fs, (R, Rs), js, (v, vs) => ∃ j rest, js = j :: rest ∧ R j v ∧ Listed fs Rs rest vs

/-- The members of an object give the values of the fields. -/
def Named : (fs : List Field) → Forms fs → List (String × Json) → Values fs → Prop
  | [], _, _, _ => True
  | f :: fs, (R, Rs), ms, (v, vs) => (∃ j, (f.name, j) ∈ ms ∧ R j v) ∧ Named fs Rs ms vs

/-- What was read so far of the members of an object. -/
def Filled : (fs : List Field) → Forms fs → List (String × Json) → Slots fs → Prop
  | [], _, _, _ => True
  | f :: fs, (R, Rs), ms, (slot, slots) =>
    (match slot with
      | none => f.name ∉ ms.map Prod.fst
      | some v => ∃ j, (f.name, j) ∈ ms ∧ R j v) ∧ Filled fs Rs ms slots

variable {fs : List Field} {Rs : Forms fs} {ms : List (String × Json)}

theorem Read.required {name : String} {c : Codec α} {R : Json → α → Prop}
    (first : Codec.Reads c.read R) (later : Read fs Rs) : Read (.required name c :: fs) (R, Rs) :=
  ⟨⟨rfl, rfl, first⟩, later⟩

theorem filled_empty (Rs : Forms fs) : Filled fs Rs [] (Slots.empty fs) := by
  induction fs with
  | nil => trivial
  | cons f fs ih => exact ⟨List.not_mem_nil, ih Rs.2⟩

/-- A member with another name does not matter. -/
theorem Filled.concat_of_notMem {slots : Slots fs} {name : String} (h : Filled fs Rs ms slots)
    (other : name ∉ fs.map Field.name) (j : Json) : Filled fs Rs (ms ++ [(name, j)]) slots := by
  induction fs with
  | nil => trivial
  | cons f fs ih =>
    obtain ⟨slot, slots⟩ := slots
    rw [List.map_cons, List.mem_cons, not_or] at other
    refine ⟨?_, ih h.2 other.2⟩
    cases slot with
    | none => simpa [Ne.symm other.1] using h.1
    | some v =>
      obtain ⟨j₁, mem, holds⟩ := h.1
      exact ⟨j₁, List.mem_append_left _ mem, holds⟩

/-- One more member of an object. It is the first with its name. -/
theorem Filled.put {slots slots' : Slots fs} {name : String} {d : Draft}
    (distinct : (fs.map Field.name).Nodup) (read : Read fs Rs) (h : Filled fs Rs ms slots)
    (put : slots.put fs name d = some (.ok slots')) :
    name ∈ fs.map Field.name ∧ name ∉ ms.map Prod.fst ∧
      ∃ j, d = .ofJson j ∧ Filled fs Rs (ms ++ [(name, j)]) slots' := by
  induction fs with
  | nil => cases put
  | cons f fs ih =>
    obtain ⟨slot, slots⟩ := slots
    obtain ⟨R, Rs⟩ := Rs
    obtain ⟨apart, distinct⟩ := List.nodup_cons.1 distinct
    obtain ⟨⟨_, _, reads⟩, later⟩ := read
    -- The member fills the first slot, which has to be empty, or one of the others.
    by_cases own : f.name = name
    · subst own
      have answer := Option.some.inj ((Slots.put_own slot slots d).symm.trans put)
      cases slot with
      | some v => cases answer
      | none =>
        obtain ⟨v, value, rfl⟩ := Codec.map_eq_ok answer
        obtain ⟨j, rfl, holds⟩ := reads d v value
        have added : (f.name, j) ∈ ms ++ [(f.name, j)] := List.mem_append_right _ (.head _)
        exact ⟨.head _, h.1, j, rfl, ⟨j, added, holds⟩, h.2.concat_of_notMem apart j⟩
    · obtain ⟨result, found, mapped⟩ :=
        Option.map_eq_some_iff.1 ((Slots.put_other slot slots d own).symm.trans put)
      obtain ⟨slots₁, rfl, rfl⟩ := Codec.map_eq_ok mapped
      obtain ⟨known, fresh, j, rfl, rest⟩ := ih distinct later h.2 found
      refine ⟨.tail _ known, fresh, j, rfl, ?_, rest⟩
      cases slot with
      | none => simpa [own] using h.1
      | some v =>
        obtain ⟨j₁, mem, holds⟩ := h.1
        exact ⟨j₁, List.mem_append_left _ mem, holds⟩

/-- The members of an object that a record may have: the names of fields, each once. -/
structure Tidy (fs : List Field) (ms : List (String × Json)) : Prop where
  known : ∀ m ∈ ms, m.1 ∈ fs.map Field.name
  once : (ms.map Prod.fst).Nodup

/-- All members of an object whose unknown fields are refused. -/
theorem Filled.fill {slots slots' : Slots fs} {ds : List (Draft × Draft)}
    (distinct : (fs.map Field.name).Nodup) (read : Read fs Rs) (h : Filled fs Rs ms slots)
    (tidy : Tidy fs ms) (fill : slots.fill fs true ds = .ok slots') :
    ∃ ms', ds = memberDrafts ms' ∧ Tidy fs (ms ++ ms') ∧ Filled fs Rs (ms ++ ms') slots' := by
  induction ds generalizing ms slots with
  | nil =>
    obtain rfl := Except.ok.inj fill
    rw [← List.append_nil ms] at tidy h
    exact ⟨[], rfl, tidy, h⟩
  | cons d ds ih =>
    obtain ⟨k, d⟩ := d
    rcases k with _ | _ | _ | _ | name | _ | _ <;> try cases fill
    cases name with
    | none => cases fill
    | some name =>
      unfold Slots.fill at fill
      split at fill
      · next slots₁ put =>
        obtain ⟨known, fresh, j, rfl, filled⟩ := h.put distinct read put
        -- A name is put into a slot once, so the names stay distinct.
        have more : Tidy fs (ms ++ [(name, j)]) := by
          refine ⟨List.forall_mem_append.2 ⟨tidy.known, List.forall_mem_singleton.2 known⟩, ?_⟩
          rw [List.map_append]
          exact List.nodup_append_comm.1 (List.nodup_cons.2 ⟨fresh, tidy.once⟩)
        obtain ⟨ms', rfl, all, rest⟩ := ih filled more fill
        rw [List.append_assoc] at all rest
        exact ⟨(name, j) :: ms', rfl, all, rest⟩
      · cases fill
      · cases fill

/-- All fields have their values. -/
theorem Filled.finish {slots : Slots fs} {vs : Values fs} (read : Read fs Rs)
    (h : Filled fs Rs ms slots) (finish : slots.finish fs = .ok vs) : Named fs Rs ms vs := by
  induction fs with
  | nil => trivial
  | cons f fs ih =>
    obtain ⟨slot, slots⟩ := slots
    obtain ⟨⟨required, _, _⟩, later⟩ := read
    rw [Slots.finish, required] at finish
    cases slot with
    | none => cases finish
    | some v =>
      obtain ⟨vs', rest, rfl⟩ := Codec.map_eq_ok finish
      exact ⟨h.1, ih later h.2 rest⟩

/-- The items of a sequence. -/
theorem listed_of_ofItems {expected : String} {closed : Bool} {taken : Nat} {ds : List Draft}
    {vs : Values fs} (read : Read fs Rs) (items : Values.ofItems expected closed fs taken ds = .ok vs) :
    closed = true ∧ ∃ js, ds = js.map Draft.ofJson ∧ Listed fs Rs js vs := by
  induction fs generalizing taken ds with
  | nil =>
    cases ds with
    | cons d ds => cases items
    | nil =>
      cases closed with
      | false => cases items
      | true => exact ⟨rfl, [], rfl, rfl⟩
  | cons f fs ih =>
    obtain ⟨⟨_, required, reads⟩, later⟩ := read
    cases ds with
    | nil =>
      unfold Values.ofItems at items
      rw [required] at items
      split at items <;> cases items
    | cons d ds =>
      obtain ⟨v, first, items⟩ := Codec.bind_eq_ok items
      obtain ⟨vs', rest, items⟩ := Codec.bind_eq_ok items
      obtain rfl := Except.ok.inj items
      obtain ⟨j, rfl, holds⟩ := reads d v first
      obtain ⟨whole, js, rfl, all⟩ := ih later rest
      exact ⟨whole, j :: js, rfl, j, js, rfl, holds, all⟩

/-- What is read as a record: an object with its fields, or a sequence of their values. -/
def Record (fs : List Field) (Rs : Forms fs) (j : Json) (vs : Values fs) : Prop :=
  (∃ ms, j = .object ms ∧ Tidy fs ms ∧ Named fs Rs ms vs) ∨ ∃ js, j = .array js ∧ Listed fs Rs js vs

end Forms

/-- **A record that refuses unknown fields** is an object with exactly its fields, in any order, or a
sequence of their values in the order in which they are declared. -/
theorem reads_record {h : Heading} {fs : List Field} {Rs : Forms fs} (strict : h.strict = true)
    (distinct : (fs.map Field.name).Nodup) (read : Forms.Read fs Rs) :
    Codec.Reads (Values.read h fs) (Forms.Record fs Rs) := by
  intro d vs values
  rcases d with _ | _ | _ | _ | _ | ⟨items, closed⟩ | ⟨members, closed⟩ <;> try cases values
  · obtain ⟨rfl, js, rfl, listed⟩ := Forms.listed_of_ofItems read values
    exact ⟨.array js, (Draft.ofJson_array js).symm, .inr ⟨js, rfl, listed⟩⟩
  · obtain ⟨slots, fill, rest⟩ := Codec.bind_eq_ok values
    rw [strict] at fill
    have none : Forms.Tidy fs [] := ⟨fun _ mem => absurd mem List.not_mem_nil, List.nodup_nil⟩
    obtain ⟨ms, rfl, tidy, filled⟩ := (Forms.filled_empty Rs).fill distinct read none fill
    have finished : (if closed then slots.finish fs else throw Fault.malformed) = Except.ok vs := rest
    cases closed with
    | false => cases finished
    | true =>
      exact ⟨.object ms, (Draft.ofJson_object ms).symm,
        .inl ⟨ms, rfl, tidy, filled.finish read finished⟩⟩

end MapBallot.Json
