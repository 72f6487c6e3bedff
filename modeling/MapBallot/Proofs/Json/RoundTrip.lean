import MapBallot.Proofs.Json.Record
import MapBallot.Proofs.Json.Spelling

/-!
# `MapBallot.Proofs.Json.RoundTrip` — what is written is read back

A codec makes the round trip if it writes nothing but whole numbers and reads back whatever it writes.
This is shown for each kind of codec from the parts of that kind, so that a record of any fields makes
the round trip if its fields do. What a field must do depends on how it treats absent values: a value that
is left out must be the one that the reader puts in, and null must not be written for a value that is there.

## Contents

* `Codec.RoundTrips`, `RoundTrips.ofText` — codecs, and texts;
* `text_roundTrips` and so on, `list_roundTrips`, `readDictionary_write` — the kinds of codecs;
* `Field.RoundTrips`, `required_roundTrips`, `omitted_roundTrips` — fields, of each kind;
* `Slots.fill_toMembers`, `Codec.record_roundTrips` — records.
-/

namespace MapBallot.Json

variable {α β : Type}

/-- The codec reads back whatever it writes, also from a text. -/
structure Codec.RoundTrips (c : Codec α) : Prop where
  exact : ∀ a, (c.write a).Exact
  faithful : c.Faithful

namespace Codec.RoundTrips

/-- **What is written as a text is read back.** -/
theorem ofText {c c' : Codec α} (h : c.RoundTrips) (same : c'.write = c.write) (a : α) {text : String}
    (printed : Printed (c'.write a) text) : c.ofText text = .ok a := by
  rw [same] at printed
  simp only [Codec.ofText, readText, ofText_printed (h.exact a) printed, h.faithful a]
  rfl

end Codec.RoundTrips

namespace Codec

/-! ## Leaves and containers -/

theorem text_roundTrips : text.RoundTrips where
  exact _ := trivial
  faithful _ := rfl

theorem truth_roundTrips : truth.RoundTrips where
  exact _ := trivial
  faithful _ := rfl

/-- A natural number of at most 64 bits is exact. -/
theorem exact_ofNat {n : Nat} (fits : n < UInt64.size) : (Json.ofNat n).Exact :=
  ⟨by omega, Int.ofNat_lt.2 fits⟩

theorem integerIn_ofNat {n bound : Nat} (fits : n ≤ bound) (expected : String) :
    integerIn 0 bound expected (.ofJson (.ofNat n)) = .ok n := by
  have within : (decide ((0 : Int) ≤ n) && decide ((n : Int) ≤ bound)) = true := by
    simpa using fits
  exact if_pos within

theorem word64_roundTrips (expected : String) : (word64 expected).RoundTrips where
  exact n := exact_ofNat n.toNat_lt
  faithful n := by
    have read : integerIn 0 0xFFFFFFFFFFFFFFFF expected (.ofJson (.ofNat n.toNat)) = .ok (n.toNat : Int) :=
      integerIn_ofNat (Nat.le_of_lt_succ n.toNat_lt) expected
    show (integerIn _ _ expected (.ofJson (.ofNat n.toNat))).map _ = _
    rw [read]
    exact congrArg Except.ok UInt64.ofNat_toNat

theorem word32_roundTrips : word32.RoundTrips where
  exact n := exact_ofNat (Nat.lt_trans n.toNat_lt (by decide))
  faithful n := by
    have read : integerIn 0 0xFFFFFFFF "u32" (.ofJson (.ofNat n.toNat)) = .ok (n.toNat : Int) :=
      integerIn_ofNat (Nat.le_of_lt_succ n.toNat_lt) "u32"
    show (integerIn _ _ "u32" (.ofJson (.ofNat n.toNat))).map _ = _
    rw [read]
    exact congrArg Except.ok UInt32.ofNat_toNat

theorem named_roundTrips {names : List String} {ofName? : String → Option α} {name : α → String}
    (found : ∀ a, ofName? (name a) = some a) : (named names ofName? name).RoundTrips where
  exact _ := trivial
  faithful a := by
    show lookup names ofName? (name a) = .ok a
    rw [lookup, found]

theorem list_roundTrips {c : Codec α} (h : c.RoundTrips) : (list c).RoundTrips where
  exact as := by
    show ItemsExact (as.map c.write)
    induction as with
    | nil => trivial
    | cons a as ih => exact ⟨h.exact a, ih⟩
  faithful as := by
    have items : c.readItems ((as.map c.write).map .ofJson) = .ok as := by
      induction as with
      | nil => rfl
      | cons a as ih =>
        rw [List.map_cons, List.map_cons, readItems, h.faithful a, ih]
        rfl
    show (list c).read (.ofJson (.array (as.map c.write))) = .ok as
    rw [Draft.ofJson_array]
    show (c.readItems _ >>= _) = _
    rw [items]
    rfl

/-- The members of an object are read back if their names and values are. -/
theorem readDictionary_write {key : String → Except Fault α} {name : α → String} {value : Codec β}
    (named : ∀ a, key (name a) = .ok a) (h : value.RoundTrips) (expected : String) (es : List (α × β)) :
    readDictionary expected key value
      (.ofJson (.object (es.map fun (a, b) => (name a, value.write b)))) = .ok es := by
  have members : readMembers key value ((es.map fun (a, b) => (name a, value.write b)).map
      fun m => (.string (some m.1), .ofJson m.2)) = .ok es := by
    induction es with
    | nil => rfl
    | cons e es ih =>
      rw [List.map_cons, List.map_cons, readMembers, named, h.faithful, ih]
      rfl
  rw [Draft.ofJson_object]
  show (readMembers key value _ >>= _) = _
  rw [members]
  rfl

theorem exact_dictionary {name : α → String} {value : Codec β} (h : value.RoundTrips) (es : List (α × β)) :
    (Json.object (es.map fun (a, b) => (name a, value.write b))).Exact := by
  show MembersExact _
  induction es with
  | nil => trivial
  | cons e es ih => exact ⟨h.exact e.2, ih⟩

end Codec

/-! ## Fields -/

/-- Whatever a field writes is read back, and what it leaves out is what is put in for it. -/
structure Field.RoundTrips (f : Field) : Prop where
  exact : ∀ v j, f.write v = some j → j.Exact
  faithful : ∀ v j, f.write v = some j → f.read (.ofJson j) = .ok v
  absent : ∀ v, f.write v = none → f.absent = some v

namespace Field

variable {c : Codec α}

theorem required_roundTrips (name : String) (h : c.RoundTrips) : (required name c).RoundTrips where
  exact := by
    rintro v _ ⟨⟩
    exact h.exact v
  faithful := by
    rintro v _ ⟨⟩
    exact h.faithful v
  absent := nofun

theorem withDefault_roundTrips (name : String) (h : c.RoundTrips) (default : α) :
    (withDefault name c default).RoundTrips where
  exact := by
    rintro v _ ⟨⟩
    exact h.exact v
  faithful := by
    rintro v _ ⟨⟩
    exact h.faithful v
  absent := nofun

end Field

/-- A value that is there is not read as none, as long as its codec does not write null. -/
theorem Codec.nullable_read {c : Codec α} (h : c.RoundTrips) (given : ∀ a, c.write a ≠ .null) (a : α) :
    c.nullable.read (.ofJson (c.write a)) = .ok (some a) := by
  have read := h.faithful a
  have apart := given a
  generalize c.write a = j at read apart
  cases j with
  | null => exact absurd rfl apart
  | bool | number | string | array | object =>
    show (c.read _).map some = _
    rw [read]
    rfl

theorem Codec.nullable_roundTrips {c : Codec α} (h : c.RoundTrips) (given : ∀ a, c.write a ≠ .null) :
    c.nullable.RoundTrips where
  exact a := by
    cases a with
    | none => trivial
    | some a => exact h.exact a
  faithful a := by
    cases a with
    | none => rfl
    | some a => exact Codec.nullable_read h given a

namespace Field

variable {c : Codec α}

theorem optional_roundTrips (name : String) (h : c.RoundTrips) (given : ∀ a, c.write a ≠ .null) :
    (optional name c).RoundTrips :=
  withDefault_roundTrips name (Codec.nullable_roundTrips h given) none

theorem optionalInObject_roundTrips (name : String) (h : c.RoundTrips)
    (given : ∀ a, c.write a ≠ .null) : (optionalInObject name c).RoundTrips where
  exact := by
    rintro v _ ⟨⟩
    exact (Codec.nullable_roundTrips h given).exact v
  faithful := by
    rintro v _ ⟨⟩
    exact (Codec.nullable_roundTrips h given).faithful v
  absent := nofun

theorem omitted_roundTrips (name : String) (h : c.RoundTrips) (given : ∀ a, c.write a ≠ .null) :
    (omitted name c).RoundTrips where
  exact := by
    rintro (_ | a) j written
    · cases written
    · obtain rfl := Option.some.inj written
      exact h.exact a
  faithful := by
    rintro (_ | a) j written
    · cases written
    · obtain rfl := Option.some.inj written
      exact Codec.nullable_read h given a
  absent := by
    rintro (_ | a) left
    · rfl
    · cases left

end Field

/-! ## Records -/

section

variable {f : Field} {fs : List Field} {v : f.Value}

theorem Values.toMembers_left (left : f.write v = none) (vs : Values fs) :
    Values.toMembers (f :: fs) (v, vs) = vs.toMembers fs := by
  refine (Values.toMembers.eq_2 f fs v vs).trans ?_
  rw [left]

theorem Values.toMembers_written {j : Json} (written : f.write v = some j) (vs : Values fs) :
    Values.toMembers (f :: fs) (v, vs) = (f.name, j) :: vs.toMembers fs := by
  refine (Values.toMembers.eq_2 f fs v vs).trans ?_
  rw [written]

/-- The values that are written, without those that are left out. -/
def Slots.written : (fs : List Field) → Values fs → Slots fs
  | [], _ => ()
  | f :: fs, (v, vs) => (if (f.write v).isSome then some v else none, written fs vs)

theorem Slots.written_left (left : f.write v = none) (vs : Values fs) :
    Slots.written (f :: fs) (v, vs) = (none, Slots.written fs vs) := by
  show (if (f.write v).isSome then _ else _, _) = _
  rw [left]
  rfl

theorem Slots.written_given {j : Json} (written : f.write v = some j) (vs : Values fs) :
    Slots.written (f :: fs) (v, vs) = (some v, Slots.written fs vs) := by
  show (if (f.write v).isSome then _ else _, _) = _
  rw [written]
  rfl

theorem mem_names_of_mem_toMembers {vs : Values fs} {m : String × Json} (mem : m ∈ vs.toMembers fs) :
    m.1 ∈ fs.map Field.name := by
  induction fs with
  | nil => cases mem
  | cons f fs ih =>
    obtain ⟨v, vs⟩ := vs
    cases write : f.write v with
    | none =>
      rw [Values.toMembers_left write] at mem
      exact .tail _ (ih mem)
    | some j =>
      rw [Values.toMembers_written write] at mem
      rcases List.mem_cons.1 mem with rfl | mem
      · exact .head _
      · exact .tail _ (ih mem)

/-- Filling empty slots with what is written gives what is written. -/
theorem Slots.fill_toMembers (distinct : (fs.map Field.name).Nodup) (each : ∀ f ∈ fs, f.RoundTrips)
    (strict : Bool) (vs : Values fs) :
    (Slots.empty fs).fill fs strict (memberDrafts (vs.toMembers fs)) = .ok (Slots.written fs vs) := by
  induction fs with
  | nil => rfl
  | cons f fs ih =>
    obtain ⟨v, vs⟩ := vs
    obtain ⟨other, distinct⟩ := List.nodup_cons.1 distinct
    obtain ⟨first, each⟩ := List.forall_mem_cons.1 each
    have later := ih distinct each vs
    have known : ∀ m ∈ vs.toMembers fs, m.1 ∈ fs.map Field.name := fun _ => mem_names_of_mem_toMembers
    have apart : ∀ m ∈ vs.toMembers fs, f.name ≠ m.1 := fun m mem same => other (same ▸ known m mem)
    -- A field that is left out has an empty slot until the end, where it gets its default.
    cases write : f.write v with
    | none =>
      rw [Values.toMembers_left write, Slots.written_left write]
      exact (Slots.fill_cons none (Slots.empty fs) apart known).trans (congrArg _ later)
    | some j =>
      rw [Values.toMembers_written write, Slots.written_given write]
      refine (Slots.fill_own _ (Slots.empty fs) j apart known).trans ?_
      rw [first.faithful v j write]
      exact congrArg (Except.map _) later

theorem Slots.finish_written (each : ∀ f ∈ fs, f.RoundTrips) (vs : Values fs) :
    (Slots.written fs vs).finish fs = .ok vs := by
  induction fs with
  | nil => rfl
  | cons f fs ih =>
    obtain ⟨v, vs⟩ := vs
    obtain ⟨first, each⟩ := List.forall_mem_cons.1 each
    have finish (slot : Option f.Value) (found : (slot <|> f.absent) = some v) :
        Slots.finish (f :: fs) (slot, Slots.written fs vs) = .ok (v, vs) := by
      refine (Slots.finish.eq_2 f fs slot (Slots.written fs vs)).trans ?_
      rw [found]
      exact congrArg (Except.map _) (ih each vs)
    cases write : f.write v with
    | none =>
      rw [Slots.written_left write]
      exact finish none (first.absent v write)
    | some j =>
      rw [Slots.written_given write]
      exact finish (some v) rfl

theorem exact_toMembers (each : ∀ f ∈ fs, f.RoundTrips) (vs : Values fs) :
    MembersExact (vs.toMembers fs) := by
  induction fs with
  | nil => trivial
  | cons f fs ih =>
    obtain ⟨v, vs⟩ := vs
    obtain ⟨first, each⟩ := List.forall_mem_cons.1 each
    cases write : f.write v with
    | none =>
      rw [Values.toMembers_left write]
      exact ih each vs
    | some j =>
      rw [Values.toMembers_written write]
      exact ⟨first.exact v j write, ih each vs⟩

theorem Values.read_toMembers (h : Heading) (distinct : (fs.map Field.name).Nodup)
    (each : ∀ f ∈ fs, f.RoundTrips) (vs : Values fs) :
    Values.read h fs (.ofJson (.object (vs.toMembers fs))) = .ok vs := by
  rw [Draft.ofJson_object]
  show ((Slots.empty fs).fill fs h.strict (memberDrafts (vs.toMembers fs)) >>=
    fun slots => slots.finish fs) = _
  rw [Slots.fill_toMembers distinct each]
  exact Slots.finish_written each vs

end

/-- **Records make the round trip** if their fields do, under different names. -/
theorem Codec.record_roundTrips {h : Heading} {fs : List Field} {make : Values fs → α}
    {parts : α → Values fs} (distinct : (fs.map Field.name).Nodup) (each : ∀ f ∈ fs, f.RoundTrips)
    (whole : ∀ a, make (parts a) = a) : (Codec.record h fs make parts).RoundTrips where
  exact a := exact_toMembers each (parts a)
  faithful a := by
    show (Values.read h fs (.ofJson (.object ((parts a).toMembers fs)))).map make = _
    rw [Values.read_toMembers h distinct each]
    exact congrArg Except.ok (whole a)

end MapBallot.Json
