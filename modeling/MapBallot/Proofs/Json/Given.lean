import MapBallot.Proofs.Json.Record

/-!
# `MapBallot.Proofs.Json.Given` — records field by field

The reader of a record goes through the members of an object once and fills a slot for each field. What
comes of a field depends on nothing but what the object gives to that field's name, so a record can be
read one field after the other: each field takes what is given to it, and what no field takes is left.
Drafts that are no documents are covered as well; a value is not looked at before its field reads it.

## Contents

* `isNamed`, `given`, `others` — the members with a name, and those without it;
* `Field.Fills`, `fill_cons_iff` — one field, and the others on the members that are left;
* `Field.Given`, `Values.Given`, `Values.Listed` — the values of a record, from an object or a sequence;
* `Values.read_eq_ok_iff` — exactly these are read.
-/

namespace MapBallot.Json

variable {α : Type}

/-! ## The members with a name -/

/-- The member has this name. -/
def isNamed (name : String) (m : Draft × Draft) : Bool :=
  match m.1 with
  | .string (some k) => k == name
  | _ => false

/-- What is given to a name, in the order of the members. -/
def given (name : String) (ms : List (Draft × Draft)) : List Draft := (ms.filter (isNamed name)).map Prod.snd

/-- The members without this name. -/
def others (name : String) (ms : List (Draft × Draft)) : List (Draft × Draft) :=
  ms.filter fun m => !isNamed name m

theorem given_cons_of_named {name : String} {m : Draft × Draft} (h : isNamed name m = true)
    (ms : List (Draft × Draft)) : given name (m :: ms) = m.2 :: given name ms := by
  simp [given, h]

theorem given_cons_of_not_named {name : String} {m : Draft × Draft} (h : isNamed name m = false)
    (ms : List (Draft × Draft)) : given name (m :: ms) = given name ms := by
  simp [given, h]

theorem others_cons_of_named {name : String} {m : Draft × Draft} (h : isNamed name m = true)
    (ms : List (Draft × Draft)) : others name (m :: ms) = others name ms := by
  simp [others, h]

theorem others_cons_of_not_named {name : String} {m : Draft × Draft} (h : isNamed name m = false)
    (ms : List (Draft × Draft)) : others name (m :: ms) = m :: others name ms := by
  simp [others, h]

theorem isNamed_of_isNamed {name name' : String} {m : Draft × Draft} (h : isNamed name m = true)
    (apart : name ≠ name') : isNamed name' m = false := by
  obtain ⟨k, d⟩ := m
  rcases k with _ | _ | _ | _ | (_ | k) | _ | _ <;> first | rfl | skip
  obtain rfl : k = name := by simpa [isNamed] using h
  simpa [isNamed] using apart

/-- What is given to a name does not depend on the members with another one. -/
theorem given_others {name name' : String} (apart : name ≠ name') (ms : List (Draft × Draft)) :
    given name' (others name ms) = given name' ms := by
  induction ms with
  | nil => rfl
  | cons m ms ih =>
    by_cases own : isNamed name m = true
    · rw [others_cons_of_named own, given_cons_of_not_named (isNamed_of_isNamed own apart), ih]
    · have other : isNamed name m = false := by simpa using own
      rw [others_cons_of_not_named other]
      cases named : isNamed name' m with
      | true => rw [given_cons_of_named named, given_cons_of_named named, ih]
      | false => rw [given_cons_of_not_named named, given_cons_of_not_named named, ih]

theorem mem_others {name : String} {m : Draft × Draft} {ms : List (Draft × Draft)} :
    m ∈ others name ms ↔ m ∈ ms ∧ isNamed name m = false := by
  simp [others]

/-! ## One field and the others -/

/-- What the slot of a field holds after some values were given to its name. -/
def Field.Fills (f : Field) (slot : Option f.Value) (ds : List Draft) (slot' : Option f.Value) : Prop :=
  (ds = [] ∧ slot' = slot) ∨ (slot = none ∧ ∃ d v, ds = [d] ∧ f.read d = .ok v ∧ slot' = some v)

namespace Slots

variable {f : Field} {fs : List Field} {strict : Bool}

/-- A member whose name is no text cannot be read. -/
theorem fill_unnamed {k : Draft} (unnamed : ∀ name, k ≠ .string (some name)) (slots : Slots fs) (d : Draft)
    (ms : List (Draft × Draft)) : slots.fill fs strict ((k, d) :: ms) = .error .malformed := by
  unfold Slots.fill
  split
  · next h => cases h
  · next name _ _ h =>
    obtain ⟨⟨rfl, _⟩, _⟩ := List.cons.inj h
    exact absurd rfl (unnamed name)
  · rfl

/-- A member that no field takes leaves the slots as they are. -/
theorem fill_unknown {slots : Slots fs} {name : String} {d : Draft} (unknown : slots.put fs name d = none)
    (ms : List (Draft × Draft)) :
    slots.fill fs strict ((.string (some name), d) :: ms) =
      if strict then .error (.unknownField name (fs.map Field.name))
      else if d.isWhole then slots.fill fs strict ms
      else .error .malformed := by
  rw [Slots.fill, unknown]

/-- The member of a field's own name. -/
theorem fill_own_iff {slot slot' : Option f.Value} {slots slots' : Slots fs} {d : Draft}
    {ms : List (Draft × Draft)} :
    Slots.fill (f :: fs) strict (slot, slots) ((.string (some f.name), d) :: ms) = .ok (slot', slots') ↔
      slot = none ∧ ∃ v, f.read d = .ok v ∧
        Slots.fill (f :: fs) strict (some v, slots) ms = .ok (slot', slots') := by
  have first : Slots.fill (f :: fs) strict (slot, slots) ((.string (some f.name), d) :: ms) = _ :=
    fill_put (put_own slot slots d) ms
  rw [first]
  cases slot with
  | some v => exact iff_of_false (by rintro ⟨⟩) (by rintro ⟨⟨⟩, _⟩)
  | none =>
    cases value : f.read d with
    | error e => exact iff_of_false (by rintro ⟨⟩) (by rintro ⟨_, _, ⟨⟩, _⟩)
    | ok v =>
      constructor
      · intro h
        exact ⟨rfl, v, rfl, h⟩
      · rintro ⟨_, _, ⟨⟩, h⟩
        exact h

/-- **A field fills its slot from what is given to its name**, and the other fields fill theirs from the
members that are left. -/
theorem fill_cons_iff {slot slot' : Option f.Value} {slots slots' : Slots fs} {ms : List (Draft × Draft)} :
    Slots.fill (f :: fs) strict (slot, slots) ms = .ok (slot', slots') ↔
      f.Fills slot (given f.name ms) slot' ∧
      slots.fill fs strict (others f.name ms) = .ok slots' := by
  induction ms generalizing slot slots with
  | nil =>
    constructor
    · intro h
      obtain ⟨rfl, rfl⟩ := Prod.mk.inj (Except.ok.inj h)
      exact ⟨.inl ⟨rfl, rfl⟩, rfl⟩
    · rintro ⟨⟨_, rfl⟩ | ⟨_, _, _, ⟨⟩, _⟩, rest⟩
      obtain rfl := Except.ok.inj rest
      rfl
  | cons m ms ih =>
    obtain ⟨k, d⟩ := m
    by_cases unnamed : ∀ name, k ≠ .string (some name)
    · -- Such a member stops the reader, and it is left for the other fields.
      have other : isNamed f.name (k, d) = false := by
        unfold isNamed
        split
        · next name h => exact absurd h (unnamed name)
        · rfl
      have stopped : Slots.fill (f :: fs) strict (slot, slots) ((k, d) :: ms) = .error .malformed :=
        fill_unnamed unnamed _ d ms
      rw [stopped, others_cons_of_not_named other, fill_unnamed unnamed]
      exact iff_of_false (by rintro ⟨⟩) (by rintro ⟨_, ⟨⟩⟩)
    push Not at unnamed
    obtain ⟨name, rfl⟩ := unnamed
    by_cases own : f.name = name
    · subst own
      have named : isNamed f.name (.string (some f.name), d) = true := beq_self_eq_true f.name
      rw [fill_own_iff, given_cons_of_named named, others_cons_of_named named]
      simp only [ih]
      constructor
      · rintro ⟨rfl, v, value, ⟨last, rfl⟩ | ⟨⟨⟩, _⟩, rest⟩
        refine ⟨.inr ⟨rfl, d, v, ?_, value, rfl⟩, rest⟩
        rw [last]
      · rintro ⟨⟨⟨⟩, _⟩ | ⟨rfl, d', v, only, value, rfl⟩, rest⟩
        obtain ⟨rfl, last⟩ := List.cons.inj only
        exact ⟨rfl, v, value, .inl ⟨last, rfl⟩, rest⟩
    · have other : isNamed f.name (.string (some name), d) = false := by
        simpa [isNamed] using Ne.symm own
      rw [given_cons_of_not_named other, others_cons_of_not_named other]
      have passed := put_other slot slots d own
      cases put : slots.put fs name d with
      | none =>
        rw [put] at passed
        rw [fill_unknown passed, fill_unknown put]
        split_ifs
        · simp
        · exact ih
        · simp
      | some r =>
        rw [put] at passed
        rw [fill_put passed, fill_put put]
        cases r with
        | error e => exact iff_of_false (by rintro ⟨⟩) (by rintro ⟨_, ⟨⟩⟩)
        | ok slots₁ => exact ih

end Slots

/-! ## The values of a record -/

/-- The value of a field in an object that gives these values to its name. -/
def Field.Given (f : Field) (ds : List Draft) (v : f.Value) : Prop :=
  (ds = [] ∧ f.absent = some v) ∨ ∃ d, ds = [d] ∧ f.read d = .ok v

theorem Field.given_singleton_iff {f : Field} {d : Draft} {v : f.Value} :
    f.Given [d] v ↔ f.read d = .ok v := by
  constructor
  · rintro (⟨⟨⟩, _⟩ | ⟨_, ⟨⟩, read⟩)
    exact read
  · intro read
    exact .inr ⟨d, rfl, read⟩

/-- A member that no field takes is passed over. -/
def PassedOver (strict : Bool) (m : Draft × Draft) : Prop :=
  strict = false ∧ (∃ name, m.1 = .string (some name)) ∧ m.2.isWhole = true

/-- The values of the fields in an object with these members. -/
def Values.Given (strict : Bool) : (fs : List Field) → List (Draft × Draft) → Values fs → Prop
  | [], ms, _ => ∀ m ∈ ms, PassedOver strict m
  | f :: fs, ms, (v, vs) => f.Given (given f.name ms) v ∧ Given strict fs (others f.name ms) vs

/-- The values of the fields in a sequence of these items. -/
def Values.Listed : (fs : List Field) → List Draft → Values fs → Prop
  | [], ds, _ => ds = []
  | f :: fs, [], (v, vs) => f.dropped = some v ∧ Listed fs [] vs
  | f :: fs, d :: ds, (v, vs) => f.read d = .ok v ∧ Listed fs ds vs

section

variable {fs : List Field} {strict : Bool}

/-- Without fields every member is passed over. -/
theorem Slots.fill_nil_iff {ms : List (Draft × Draft)} {slots slots' : Slots []} :
    slots.fill [] strict ms = .ok slots' ↔ ∀ m ∈ ms, PassedOver strict m := by
  induction ms with
  | nil =>
    constructor
    · exact fun _ _ mem => absurd mem List.not_mem_nil
    · exact fun _ => rfl
  | cons m ms ih =>
    obtain ⟨k, d⟩ := m
    rw [List.forall_mem_cons, ← ih]
    by_cases unnamed : ∀ name, k ≠ .string (some name)
    · rw [fill_unnamed unnamed]
      constructor
      · intro h
        cases h
      · rintro ⟨⟨_, ⟨name, rfl⟩, _⟩, _⟩
        exact absurd rfl (unnamed name)
    push Not at unnamed
    obtain ⟨name, rfl⟩ := unnamed
    rw [fill_unknown rfl]
    cases strict with
    | true => simp [PassedOver]
    | false =>
      by_cases whole : d.isWhole = true
      · simp [PassedOver, whole]
      · simp [PassedOver, whole]

theorem Slots.finish_cons_iff {f : Field} {slot : Option f.Value} {slots : Slots fs} {v : f.Value}
    {vs : Values fs} : Slots.finish (f :: fs) (slot, slots) = .ok (v, vs) ↔
      (slot <|> f.absent) = some v ∧ slots.finish fs = .ok vs := by
  rw [Slots.finish]
  cases (slot <|> f.absent) with
  | none => simp
  | some w =>
    cases slots.finish fs with
    | error e =>
      constructor
      · intro h
        cases h
      · rintro ⟨_, ⟨⟩⟩
    | ok ws =>
      constructor
      · intro h
        obtain ⟨rfl, rfl⟩ := Prod.mk.inj (Except.ok.inj h)
        exact ⟨rfl, rfl⟩
      · rintro ⟨⟨⟩, ⟨⟩⟩
        rfl

/-- The members of an object give the values of a record field by field. -/
theorem Values.given_iff {ms : List (Draft × Draft)} {vs : Values fs} :
    Values.Given strict fs ms vs ↔
      ∃ slots, (Slots.empty fs).fill fs strict ms = .ok slots ∧ slots.finish fs = .ok vs := by
  induction fs generalizing ms with
  | nil =>
    constructor
    · intro h
      exact ⟨(), Slots.fill_nil_iff.2 h, rfl⟩
    · rintro ⟨slots, fill, _⟩
      exact Slots.fill_nil_iff.1 fill
  | cons f fs ih =>
    obtain ⟨v, vs⟩ := vs
    constructor
    · rintro ⟨value, rest⟩
      obtain ⟨slots, fill, finish⟩ := ih.1 rest
      rcases value with ⟨left, absent⟩ | ⟨d, only, read⟩
      · exact ⟨(none, slots), Slots.fill_cons_iff.2 ⟨.inl ⟨left, rfl⟩, fill⟩,
          Slots.finish_cons_iff.2 ⟨absent, finish⟩⟩
      · exact ⟨(some v, slots), Slots.fill_cons_iff.2 ⟨.inr ⟨rfl, d, v, only, read, rfl⟩, fill⟩,
          Slots.finish_cons_iff.2 ⟨rfl, finish⟩⟩
    · rintro ⟨⟨slot, slots⟩, fill, finish⟩
      obtain ⟨value, fill⟩ := Slots.fill_cons_iff.1 fill
      obtain ⟨found, finish⟩ := Slots.finish_cons_iff.1 finish
      refine ⟨?_, ih.2 ⟨slots, fill, finish⟩⟩
      rcases value with ⟨left, rfl⟩ | ⟨_, d, w, only, read, rfl⟩
      · exact .inl ⟨left, found⟩
      · obtain rfl := Option.some.inj found
        exact .inr ⟨d, only, read⟩

/-- The items of a sequence give the values of a record one by one. -/
theorem Values.ofItems_eq_ok_iff {expected : String} {closed : Bool} {taken : Nat} {ds : List Draft}
    {vs : Values fs} :
    Values.ofItems expected closed fs taken ds = .ok vs ↔ closed = true ∧ Values.Listed fs ds vs := by
  induction fs generalizing taken ds with
  | nil =>
    cases ds with
    | nil =>
      cases closed with
      | true => exact iff_of_true rfl ⟨rfl, rfl⟩
      | false => exact iff_of_false (by rintro ⟨⟩) (by rintro ⟨⟨⟩, _⟩)
    | cons d ds => exact iff_of_false (by rintro ⟨⟩) (by rintro ⟨_, ⟨⟩⟩)
  | cons f fs ih =>
    obtain ⟨v, vs⟩ := vs
    cases ds with
    | nil =>
      rw [Values.ofItems, Values.Listed]
      cases closed with
      | false => exact iff_of_false (by rintro ⟨⟩) (by rintro ⟨⟨⟩, _⟩)
      | true =>
        rw [if_pos rfl, and_iff_right rfl]
        cases f.dropped with
        | none => exact iff_of_false (by rintro ⟨⟩) (by rintro ⟨⟨⟩, _⟩)
        | some w =>
          constructor
          · intro h
            obtain ⟨ws, rest, same⟩ := Codec.map_eq_ok h
            obtain ⟨rfl, rfl⟩ := Prod.mk.inj same
            exact ⟨rfl, (ih.1 rest).2⟩
          · rintro ⟨⟨⟩, listed⟩
            show Except.map _ (Values.ofItems _ _ _ _ _) = _
            rw [ih.2 ⟨rfl, listed⟩]
            rfl
    | cons d ds =>
      rw [Values.ofItems, Values.Listed]
      constructor
      · intro h
        obtain ⟨w, read, h⟩ := Codec.bind_eq_ok h
        obtain ⟨ws, rest, h⟩ := Codec.bind_eq_ok h
        obtain ⟨rfl, rfl⟩ := Prod.mk.inj (Except.ok.inj h)
        obtain ⟨whole, listed⟩ := ih.1 rest
        exact ⟨whole, read, listed⟩
      · rintro ⟨whole, read, listed⟩
        rw [read, ih.2 ⟨whole, listed⟩]
        rfl

end

/-- **What is read as a record**: an object that is not cut off, from which each field takes its value,
or a sequence of these values. -/
theorem Values.read_eq_ok_iff {h : Heading} {fs : List Field} {d : Draft} {vs : Values fs} :
    Values.read h fs d = .ok vs ↔
      (∃ ms, d = .object ms true ∧ Values.Given h.strict fs ms vs) ∨
      ∃ ds, d = .array ds true ∧ Values.Listed fs ds vs := by
  constructor
  · intro read
    rcases d with _ | _ | _ | _ | _ | ⟨items, closed⟩ | ⟨members, closed⟩ <;> try cases read
    · obtain ⟨rfl, listed⟩ := Values.ofItems_eq_ok_iff.1 read
      exact .inr ⟨items, rfl, listed⟩
    · obtain ⟨slots, fill, rest⟩ := Codec.bind_eq_ok read
      cases closed with
      | false => cases rest
      | true => exact .inl ⟨members, rfl, Values.given_iff.2 ⟨slots, fill, rest⟩⟩
  · rintro (⟨ms, rfl, fields⟩ | ⟨ds, rfl, listed⟩)
    · obtain ⟨slots, fill, finish⟩ := Values.given_iff.1 fields
      show (Slots.fill _ _ _ _ >>= fun slots => slots.finish fs) = _
      rw [fill]
      exact finish
    · exact Values.ofItems_eq_ok_iff.2 ⟨rfl, listed⟩

end MapBallot.Json
