import MapBallot.Proofs.Json.Record

/-!
# `MapBallot.Proofs.Json.Abbreviation` — records with their fields by their names

A sequence of the values of all fields is an abbreviation of a record. A document is spelled out from the
outside in: each record is written with its fields by their names, and then the values of the fields are
spelled out in turn. Readers do not notice.

## Contents

* `spellItems`, `spellValues`, `Spellings.spellOut` — sequences, objects and records, spelled out;
* `Forms.Holds`, `Forms.Record.spellOut` — what a record is when it is spelled out;
* `Codec.Ignores`, `Spellings.Fit` — readers that answer the same when documents are spelled out;
* `ignores_spellItems`, `ignores_spellValues`, `ignores_spellOut` — those of sequences, objects, records.
-/

namespace MapBallot.Json

variable {α β : Type}

/-! ## Spelling out -/

/-- A sequence with its items spelled out. -/
def spellItems (item : Json → Json) : Json → Json
  | .array js => .array (js.map item)
  | j => j

/-- An object with the values of its members spelled out. -/
def spellValues (value : Json → Json) : Json → Json
  | .object ms => .object (ms.map fun m => (m.1, value m.2))
  | j => j

/-- How the value of each field is spelled out. -/
abbrev Spellings := List (String × (Json → Json))

namespace Spellings

/-- A member of a record, with its value spelled out. -/
def member (parts : Spellings) (m : String × Json) : String × Json :=
  (m.1, (parts.lookup m.1).getD id m.2)

/-- A record with its fields by their names and with their values spelled out. -/
def spellOut (parts : Spellings) : Json → Json
  | .array js =>
    if js.length = parts.length then .object (((parts.map Prod.fst).zip js).map parts.member)
    else .array js
  | .object ms => .object (ms.map parts.member)
  | j => j

theorem member_own (name : String) (part : Json → Json) (parts : Spellings) (j : Json) :
    member ((name, part) :: parts) (name, j) = (name, part j) := by
  simp [member]

theorem member_other {name other : String} (apart : other ≠ name) (part : Json → Json)
    (parts : Spellings) (j : Json) :
    member ((name, part) :: parts) (other, j) = member parts (other, j) := by
  have missed : (other == name) = false := beq_false_of_ne apart
  simp [member, List.lookup_cons, missed]

/-- A member stays as it is when its field's part leaves its value. -/
theorem member_eq_self {parts : Spellings} {m : String × Json}
    (leaves : ∀ part, (m.1, part) ∈ parts → part m.2 = m.2) : parts.member m = m := by
  unfold member
  cases found : parts.lookup m.1 with
  | none => rfl
  | some part =>
    obtain ⟨before, after, rfl, _⟩ := List.lookup_eq_some_iff.1 found
    rw [Option.getD_some, leaves part (List.mem_append_right _ (.head _))]

end Spellings

/-! ## What a record is when it is spelled out -/

namespace Forms

variable {fs : List Field} {Rs : Forms fs} {vs : Values fs}

/-- A member is that of a field, and gives its value. -/
def Holds : (fs : List Field) → Forms fs → Values fs → String × Json → Prop
  | [], _, _, _ => False
  | f :: fs, (R, Rs), (v, vs), m => (m.1 = f.name ∧ R m.2 v) ∨ Holds fs Rs vs m

theorem Named.complete {ms : List (String × Json)} (h : Named fs Rs ms vs) :
    ∀ name ∈ fs.map Field.name, ∃ j, (name, j) ∈ ms := by
  induction fs with
  | nil => exact fun _ mem => absurd mem List.not_mem_nil
  | cons f fs ih =>
    obtain ⟨⟨j, mem, _⟩, later⟩ := h
    exact List.forall_mem_cons.2 ⟨⟨j, mem⟩, ih later⟩

theorem Named.holds {ms : List (String × Json)} (h : Named fs Rs ms vs) (once : (ms.map Prod.fst).Nodup)
    {m : String × Json} (mem : m ∈ ms) (known : m.1 ∈ fs.map Field.name) : Holds fs Rs vs m := by
  induction fs with
  | nil => cases known
  | cons f fs ih =>
    obtain ⟨⟨j, given, holds⟩, later⟩ := h
    rcases List.mem_cons.1 known with own | known
    · obtain rfl : m = (f.name, j) := List.inj_on_of_nodup_map once mem given own
      exact .inl ⟨rfl, holds⟩
    · exact .inr (ih later known)

theorem Listed.length_eq {js : List Json} (h : Listed fs Rs js vs) : js.length = fs.length := by
  induction fs generalizing js with
  | nil => exact congrArg List.length h
  | cons f fs ih =>
    obtain ⟨j, rest, rfl, _, later⟩ := h
    exact congrArg Nat.succ (ih later)

theorem Listed.holds {js : List Json} (h : Listed fs Rs js vs) :
    ∀ m ∈ (fs.map Field.name).zip js, Holds fs Rs vs m := by
  induction fs generalizing js with
  | nil => exact fun m mem => absurd mem (by simp)
  | cons f fs ih =>
    obtain ⟨j, rest, rfl, holds, later⟩ := h
    rw [List.map_cons, List.zip_cons_cons, List.forall_mem_cons]
    exact ⟨.inl ⟨rfl, holds⟩, fun m mem => .inr (ih later m mem)⟩

/-- **A record, spelled out**, is an object with its fields. -/
theorem Record.spellOut {j : Json} {parts : Spellings} (names : parts.map Prod.fst = fs.map Field.name)
    (h : Record fs Rs j vs) :
    ∃ ms : List (String × Json), parts.spellOut j = .object (ms.map parts.member) ∧
      (∀ m ∈ ms, Holds fs Rs vs m) ∧ ∀ name ∈ fs.map Field.name, ∃ j, (name, j) ∈ ms := by
  rcases h with ⟨ms, rfl, tidy, named⟩ | ⟨js, rfl, listed⟩
  · exact ⟨ms, rfl, fun m mem => named.holds tidy.once mem (tidy.known m mem), named.complete⟩
  · have count : parts.length = fs.length := by simpa using congrArg List.length names
    have zipped : ((fs.map Field.name).zip js).map Prod.fst = fs.map Field.name :=
      List.map_fst_zip (by simp [listed.length_eq])
    refine ⟨(fs.map Field.name).zip js, ?_, listed.holds, fun name mem => ?_⟩
    · rw [Spellings.spellOut, if_pos (listed.length_eq.trans count.symm), names]
    · rw [← zipped] at mem
      obtain ⟨m, given, rfl⟩ := List.mem_map.1 mem
      exact ⟨m.2, given⟩

end Forms

/-! ## It is read as the same -/

namespace Codec

/-- What a reader answers does not change when documents are spelled out. -/
def Ignores (read : Draft → Except Fault α) (spell : Json → Json) : Prop :=
  ∀ j, read (.ofJson (spell j)) = read (.ofJson j)

theorem readItems_map {c : Codec α} {item : Json → Json} (same : Ignores c.read item) (js : List Json) :
    c.readItems ((js.map item).map .ofJson) = c.readItems (js.map .ofJson) := by
  induction js with
  | nil => rfl
  | cons j js ih => rw [List.map_cons, List.map_cons, List.map_cons, readItems, readItems, same, ih]

theorem ignores_spellItems {c : Codec α} {item : Json → Json} (same : Ignores c.read item) :
    Ignores (list c).read (spellItems item) := by
  intro j
  cases j with
  | array js =>
    rw [spellItems, Draft.ofJson_array, Draft.ofJson_array]
    exact congrArg (· >>= pure) (readItems_map same js)
  | null | bool | number | string | object => rfl

theorem readMembers_map {key : String → Except Fault α} {c : Codec β} {value : Json → Json}
    (same : Ignores c.read value) (ms : List (String × Json)) :
    readMembers key c (memberDrafts (ms.map fun m => (m.1, value m.2))) =
      readMembers key c (memberDrafts ms) := by
  induction ms with
  | nil => rfl
  | cons m ms ih =>
    show readMembers key c ((.string (some m.1), .ofJson (value m.2)) :: memberDrafts _) =
      readMembers key c ((.string (some m.1), .ofJson m.2) :: memberDrafts ms)
    rw [readMembers, readMembers, same, ih]

theorem ignores_spellValues {expected : String} {key : String → Except Fault α} {c : Codec β}
    {value : Json → Json} (same : Ignores c.read value) :
    Ignores (readDictionary expected key c) (spellValues value) := by
  intro j
  cases j with
  | object ms =>
    rw [spellValues, Draft.ofJson_object, Draft.ofJson_object]
    exact congrArg (· >>= pure) (readMembers_map same ms)
  | null | bool | number | string | array => rfl

end Codec

variable {fs : List Field}

/-- The values of all fields by their names are read as those in their order. -/
theorem Slots.fill_zip (distinct : (fs.map Field.name).Nodup) (strict : Bool) (expected : String)
    {js : List Json} (count : js.length = fs.length) (taken : Nat) :
    ((Slots.empty fs).fill fs strict (memberDrafts ((fs.map Field.name).zip js)) >>=
      fun slots => slots.finish fs) = Values.ofItems expected true fs taken (js.map Draft.ofJson) := by
  induction fs generalizing js taken with
  | nil =>
    obtain rfl := List.eq_nil_of_length_eq_zero count
    rfl
  | cons f fs ih =>
    obtain ⟨other, distinct⟩ := List.nodup_cons.1 distinct
    obtain ⟨j, js, rfl⟩ := List.exists_cons_of_length_eq_add_one count
    -- The other members have other names, so the first slot is filled by the first value only.
    have later := ih distinct (Nat.succ.inj count) (taken + 1)
    have known : ∀ m ∈ (fs.map Field.name).zip js, m.1 ∈ fs.map Field.name :=
      fun m mem => (List.of_mem_zip mem).1
    have first := Slots.fill_own strict (Slots.empty fs) j
      (fun m mem same => other (same ▸ known m mem)) known
    refine (congrArg (· >>= fun slots => Slots.finish (f :: fs) slots) first).trans ?_
    rw [List.map_cons, Values.ofItems, ← later]
    cases f.read (.ofJson j) with
    | error e => rfl
    | ok v =>
      cases (Slots.empty fs).fill fs strict (memberDrafts ((fs.map Field.name).zip js)) with
      | error e => rfl
      | ok slots =>
        refine (Slots.finish_cons v slots).trans ?_
        show _ = (slots.finish fs >>= fun vs => pure (v, vs))
        cases slots.finish fs <;> rfl

section

variable {parts : Spellings}
  (same : ∀ f ∈ fs, Codec.Ignores f.read fun j => (parts.member (f.name, j)).2)

include same

/-- Whether a value is spelled out does not matter to its slot. -/
theorem Slots.put_member (slots : Slots fs) (m : String × Json) :
    slots.put fs m.1 (.ofJson (parts.member m).2) = slots.put fs m.1 (.ofJson m.2) := by
  induction fs with
  | nil => rfl
  | cons f fs ih =>
    obtain ⟨name, j⟩ := m
    obtain ⟨slot, slots⟩ := slots
    obtain ⟨first, same⟩ := List.forall_mem_cons.1 same
    by_cases own : f.name = name
    · subst own
      refine (Slots.put_own slot slots _).trans (.trans ?_ (Slots.put_own slot slots _).symm)
      rw [show f.read (.ofJson (parts.member (f.name, j)).2) = _ from first j]
    · refine (Slots.put_other slot slots _ own).trans (.trans ?_ (Slots.put_other slot slots _ own).symm)
      rw [ih same slots]

/-- Whether values are spelled out does not matter to what is read. -/
theorem Slots.fill_members (slots : Slots fs) (ms : List (String × Json)) :
    slots.fill fs true (memberDrafts (ms.map parts.member)) = slots.fill fs true (memberDrafts ms) := by
  induction ms generalizing slots with
  | nil => rfl
  | cons m ms ih =>
    have spelled : memberDrafts ((m :: ms).map parts.member) =
      (.string (some m.1), .ofJson (parts.member m).2) :: memberDrafts (ms.map parts.member) := rfl
    have plain : memberDrafts (m :: ms) = (.string (some m.1), .ofJson m.2) :: memberDrafts ms := rfl
    rw [spelled, plain, Slots.fill, Slots.fill, Slots.put_member same]
    cases slots.put fs m.1 (.ofJson m.2) with
    | none => rfl
    | some r =>
      cases r with
      | error e => rfl
      | ok slots => exact ih slots

end

/-- Each field has a part that its reader ignores. -/
def Spellings.Fit (parts : Spellings) (fs : List Field) : Prop :=
  List.Forall₂ (fun f part => f.name = part.1 ∧ Codec.Ignores f.read part.2) fs parts

namespace Spellings.Fit

variable {parts : Spellings}

theorem required {name : String} {c : Codec α} {part : Json → Json} (first : Codec.Ignores c.read part)
    (later : Spellings.Fit parts fs) : Spellings.Fit ((name, part) :: parts) (.required name c :: fs) :=
  .cons ⟨rfl, first⟩ later

theorem names (h : Spellings.Fit parts fs) : parts.map Prod.fst = fs.map Field.name := by
  induction h with
  | nil => rfl
  | cons first _ ih => rw [List.map_cons, List.map_cons, ih, first.1]

theorem ignores (h : Spellings.Fit parts fs) (distinct : (fs.map Field.name).Nodup) :
    ∀ f ∈ fs, Codec.Ignores f.read fun j => (parts.member (f.name, j)).2 := by
  induction h with
  | nil => exact fun _ mem => absurd mem List.not_mem_nil
  | @cons f part fs parts first later ih =>
    obtain ⟨name, part⟩ := part
    obtain ⟨rfl, same⟩ := first
    obtain ⟨apart, distinct⟩ := List.nodup_cons.1 distinct
    refine List.forall_mem_cons.2 ⟨fun j => ?_, fun g mem j => ?_⟩
    · beta_reduce
      rw [Spellings.member_own]
      exact same j
    · have other : g.name ≠ f.name := fun equal => apart (equal ▸ List.mem_map_of_mem mem)
      beta_reduce
      rw [Spellings.member_other other]
      exact ih distinct g mem j

end Spellings.Fit

/-- **Abbreviations do not change what is read.** -/
theorem ignores_spellOut {h : Heading} {parts : Spellings} (strict : h.strict = true)
    (distinct : (fs.map Field.name).Nodup) (fit : parts.Fit fs) :
    Codec.Ignores (Values.read h fs) parts.spellOut := by
  intro j
  have same := Spellings.Fit.ignores fit distinct
  have members (ms : List (String × Json)) : Values.read h fs (.ofJson (.object (ms.map parts.member))) =
      Values.read h fs (.ofJson (.object ms)) := by
    rw [Draft.ofJson_object, Draft.ofJson_object]
    show ((Slots.empty fs).fill fs h.strict (memberDrafts (ms.map parts.member)) >>= _) =
      ((Slots.empty fs).fill fs h.strict (memberDrafts ms) >>= _)
    rw [strict, Slots.fill_members same]
  cases j with
  | object ms => exact members ms
  | array js =>
    -- With another number of values it is no abbreviation, and it is left as it is.
    rw [Spellings.spellOut]
    split
    · next count =>
      have length : fs.length = parts.length := List.Forall₂.length_eq fit
      rw [fit.names, members, Draft.ofJson_object, Draft.ofJson_array]
      exact Slots.fill_zip distinct h.strict _ (count.trans length.symm) 0
    · rfl
  | null | bool | number | string => rfl

end MapBallot.Json
