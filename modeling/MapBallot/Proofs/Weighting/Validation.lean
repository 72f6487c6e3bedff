import Mathlib.Data.List.Forall2
import MapBallot.Proofs.Weighting.Owners

/-!
# `MapBallot.Proofs.Weighting.Validation` — which documents are accepted, and what comes of them

Validation goes through the groups of a document once and stops at the first thing that is wrong. Here
everything that is wrong with a document is listed, in the order in which it is looked for and without
stopping. Validation reports the head of that list, and if there is none, it gives what was written.

## Contents

* `Axis.Valid` — what a document must keep to;
* `Document.violations` — all that is wrong with it, in order;
* `unlessAny` — a value, unless something is wrong; `readMembers_eq`, `readGroup_eq`,
  `readGroupsAfter_eq`, `ofDocument_eq` — each part of validation is of this form;
* `violations_eq_nil_iff` — nothing is wrong exactly if the document keeps to it;
* `Resolves`, `groupOf?_eq_some_iff` — accepted groups, and looking up the group of a member;
* `Accepted`, `ofDocument_complete` — validation, completely.
-/

namespace MapBallot.Weighting

variable {Member α β : Type}

/-! ## What a document must keep to -/

section

variable [Scalar α]

/-- A weight is at least zero and at most one hundred. -/
abbrev weightInRange (w : Int) : Prop := 0 ≤ w ∧ w ≤ 100

/-- Groups of one kind that may be put into force. -/
structure Axis.Valid (axis : Axis Member) (es : Entries Member α) : Prop where
  nonempty : es ≠ []
  named : ∀ entry ∈ es, isIdentifier entry.1 = true
  /-- No two groups have one name. -/
  distinct : (es.map Prod.fst).Nodup
  weight : ∀ entry ∈ es, weightInRange entry.2.weight
  decay : ∀ entry ∈ es, Scalar.le (Scalar.ofNat 0) entry.2.repeatDecay = true ∧
    Scalar.le entry.2.repeatDecay (Scalar.ofNat 1) = true
  members : ∀ entry ∈ es, ∀ m ∈ entry.2.members, axis.isValid m = true
  /-- Nothing is listed in two groups. It may be listed twice in one. -/
  apart : es.Pairwise fun a b => ∀ m ∈ a.2.members, m ∉ b.2.members

end

/-! ## What is wrong with a document -/

/-- The name of the first group that lists a member. -/
def listedIn? [BEq Member] (es : Entries Member α) (m : Member) : Option String :=
  (es.find? fun entry => entry.2.members.contains m).map Prod.fst

namespace Axis

variable [BEq Member]

/-- What is wrong with a member of a group that follows the earlier ones. -/
def memberViolation? (axis : Axis Member) (earlier : Entries Member α) (name : String)
    (m : Member) : Option (Problem α) :=
  if axis.isValid m = false then some (.invalidIdentifier axis.kind name (axis.name m))
  else (listedIn? earlier m).map fun owner => .duplicateMember axis.kind (axis.name m) owner name

variable [Scalar α]

/-- All that is wrong with a group that follows the earlier ones: with its name, its weight, its decay
and its members. -/
def groupViolations (axis : Axis Member) (earlier : Entries Member α) (name : String)
    (e : Entry Member α) : List (Problem α) :=
  (if isIdentifier name = true then [] else [.invalidIdentifier axis.kind name name]) ++
  (if name ∈ earlier.map Prod.fst then [.duplicateGroup axis.kind name] else []) ++
  (if weightInRange e.weight then [] else [.weightOutOfRange axis.kind name e.weight]) ++
  (if decayInRange e.repeatDecay = true then []
    else [.repeatDecayOutOfRange axis.kind name e.repeatDecay]) ++
  e.members.filterMap (axis.memberViolation? earlier name)

/-- All that is wrong with the groups that follow the earlier ones, one group after the other. -/
def violationsAfter (axis : Axis Member) :
    Entries Member α → Entries Member α → List (Problem α)
  | _, [] => []
  | earlier, (name, e) :: es =>
    axis.groupViolations earlier name e ++ axis.violationsAfter (earlier ++ [(name, e)]) es

/-- All that is wrong with the groups of one kind. -/
def violations (axis : Axis Member) (es : Entries Member α) : List (Problem α) :=
  if es = [] then [.missingGroups axis.kind] else axis.violationsAfter [] es

end Axis

/-- All that is wrong with a document, its map groups first. -/
def Document.violations [Scalar α] (d : Document α) : List (Problem α) :=
  Axis.map.violations d.groups ++ Axis.environment.violations d.environments

/-! ## Validation reports the first of it -/

/-- A value, unless something is wrong; then the first thing that is. -/
def unlessAny (problems : List (Problem α)) (value : β) : Except (Problem α) β :=
  match problems with
  | [] => .ok value
  | problem :: _ => .error problem

theorem unlessAny_append (ps qs : List (Problem α)) (value : β) :
    unlessAny (ps ++ qs) value = (unlessAny ps ()).bind fun _ => unlessAny qs value := by
  cases ps <;> rfl

theorem unlessAny_eq_ok_iff {ps : List (Problem α)} {value v : β} :
    unlessAny ps value = .ok v ↔ ps = [] ∧ value = v := by
  cases ps <;> simp [unlessAny]

theorem unlessAny_eq_error_iff {ps : List (Problem α)} {value : β} {p : Problem α} :
    unlessAny ps value = .error p ↔ ps.head? = some p := by
  cases ps <;> simp [unlessAny]

/-- The group of an entry; each member is kept where it is listed first. -/
def Group.ofEntry [BEq Member] (entry : String × Entry Member α) : Group Member α :=
  ⟨entry.1, entry.2.weight.toNat, entry.2.repeatDecay, entry.2.members.eraseDups⟩

section

variable [BEq Member] [LawfulBEq Member]

/-- The groups of entries list what the entries list. -/
theorem groupOf?_ofEntry (es : Entries Member α) (m : Member) :
    (groupOf? (es.map Group.ofEntry) m).map Group.name = listedIn? es m := by
  unfold groupOf? listedIn?
  induction es with
  | nil => rfl
  | cons entry es ih =>
    have same : (Group.ofEntry entry).members.contains m = entry.2.members.contains m := by
      simp [Group.ofEntry]
    rw [List.map_cons, List.find?_cons, List.find?_cons, same]
    cases entry.2.members.contains m with
    | true => rfl
    | false => exact ih

namespace Axis

variable {axis : Axis Member}

/-- Reading members reports the first that is wrong, and else keeps each where it is listed first. -/
theorem readMembers_eq (earlier : Entries Member α) (name : String) (seen ms : List Member) :
    axis.readMembers (earlier.map Group.ofEntry) name seen.eraseDups ms =
      unlessAny (ms.filterMap (axis.memberViolation? earlier name)) (seen ++ ms).eraseDups := by
  induction ms generalizing seen with
  | nil => simp [readMembers, unlessAny]
  | cons m ms ih =>
    unfold readMembers
    rw [List.filterMap_cons]
    by_cases valid : axis.isValid m = false
    · have wrong : axis.memberViolation? earlier name m =
          some (.invalidIdentifier axis.kind name (axis.name m)) := if_pos valid
      rw [wrong, if_pos (by simp [valid])]
      rfl
    have owned := groupOf?_ofEntry earlier m
    have told : axis.memberViolation? earlier name m = (listedIn? earlier m).map fun owner =>
        .duplicateMember axis.kind (axis.name m) owner name := if_neg valid
    rw [if_neg (by simpa using valid), told, ← owned]
    cases groupOf? (earlier.map Group.ofEntry) m with
    | some owner => rfl
    | none =>
      -- The member joins those that were seen, where it is dropped if it is one of them.
      have joined : (if seen.eraseDups.contains m then seen.eraseDups else seen.eraseDups ++ [m]) =
          (seen ++ [m]).eraseDups := by
        rw [List.eraseDups_append]
        by_cases again : m ∈ seen <;> simp [again, List.removeAll, List.eraseDups_cons]
      dsimp only [Option.map_none]
      rw [joined, ih, List.append_assoc, List.singleton_append]

variable [Scalar α]

/-- Validating a group reports the first thing that is wrong with it. -/
theorem readGroup_eq (earlier : Entries Member α) (name : String) (e : Entry Member α) :
    axis.readGroup (earlier.map Group.ofEntry) name e =
      unlessAny (axis.groupViolations earlier name e) (Group.ofEntry (name, e)) := by
  have names : (earlier.map Group.ofEntry).any (·.name == name) = true ↔
      name ∈ earlier.map Prod.fst := by
    simp [Group.ofEntry]
  have weights : (e.weight < 0 || (maxWeight : Int) < e.weight) = true ↔
      ¬ weightInRange e.weight := by
    rw [Bool.or_eq_true, decide_eq_true_iff, decide_eq_true_iff, show (maxWeight : Int) = 100 from rfl]
    omega
  unfold readGroup groupViolations
  by_cases named : isIdentifier name = true
  swap
  · rw [if_pos (by simpa using named), if_neg named]
    rfl
  rw [if_neg (by simpa using named), if_pos named]
  by_cases taken : name ∈ earlier.map Prod.fst
  · rw [if_pos (names.2 taken), if_pos taken]
    rfl
  rw [if_neg (mt names.1 taken), if_neg taken]
  by_cases weight : weightInRange e.weight
  swap
  · rw [if_pos (weights.2 weight), if_neg weight]
    rfl
  rw [if_neg (mt weights.1 (not_not.2 weight)), if_pos weight]
  by_cases decay : decayInRange e.repeatDecay = true
  swap
  · rw [if_pos (by simpa using decay), if_neg decay]
    rfl
  rw [if_neg (by simpa using decay), if_pos decay]
  have members : axis.readMembers (earlier.map Group.ofEntry) name [] e.members =
      unlessAny (e.members.filterMap (axis.memberViolation? earlier name)) e.members.eraseDups :=
    readMembers_eq earlier name [] e.members
  rw [members]
  cases e.members.filterMap (axis.memberViolation? earlier name) <;> rfl

/-- Validating groups reports the first thing that is wrong with them. -/
theorem readGroupsAfter_eq (earlier es : Entries Member α) :
    axis.readGroupsAfter (earlier.map Group.ofEntry) es =
      unlessAny (axis.violationsAfter earlier es) ((earlier ++ es).map Group.ofEntry) := by
  induction es generalizing earlier with
  | nil => simp [readGroupsAfter, violationsAfter, unlessAny]
  | cons entry es ih =>
    obtain ⟨name, e⟩ := entry
    rw [readGroupsAfter, violationsAfter, readGroup_eq, unlessAny_append]
    cases axis.groupViolations earlier name e with
    | cons problem _ => rfl
    | nil =>
      have next := ih (earlier ++ [(name, e)])
      rw [List.map_append, List.append_assoc] at next
      exact next

theorem readGroups_eq (es : Entries Member α) :
    axis.readGroups es = unlessAny (axis.violations es) (es.map Group.ofEntry) := by
  unfold readGroups violations
  by_cases empty : es = []
  · rw [if_pos (by simpa using empty), if_pos empty]
    rfl
  · rw [if_neg (by simpa using empty), if_neg empty]
    exact readGroupsAfter_eq [] es

/-! ## Nothing is wrong exactly if the document keeps to everything -/

omit [Scalar α] in
theorem memberViolation?_eq_none_iff {earlier : Entries Member α} {name : String} {m : Member} :
    axis.memberViolation? earlier name m = none ↔
      axis.isValid m = true ∧ ∀ entry ∈ earlier, m ∉ entry.2.members := by
  unfold memberViolation? listedIn?
  by_cases valid : axis.isValid m = false
  · simp [valid]
  · rw [if_neg valid, Option.map_eq_none_iff, Option.map_eq_none_iff, List.find?_eq_none]
    simp [valid]

theorem groupViolations_eq_nil_iff {earlier : Entries Member α} {name : String}
    {e : Entry Member α} :
    axis.groupViolations earlier name e = [] ↔
      isIdentifier name = true ∧ name ∉ earlier.map Prod.fst ∧ weightInRange e.weight ∧
      decayInRange e.repeatDecay = true ∧
      (∀ m ∈ e.members, axis.isValid m = true ∧ ∀ entry ∈ earlier, m ∉ entry.2.members) := by
  unfold groupViolations
  simp only [List.append_eq_nil_iff, List.filterMap_eq_nil_iff, memberViolation?_eq_none_iff]
  simp only [ite_eq_left_iff, ite_eq_right_iff, reduceCtorEq, imp_false, not_not, and_assoc]

/-- Nothing is wrong with the groups that follow earlier ones if nothing is wrong with each of them and
no two of them have the name or a member in common, nor one of them with an earlier one. -/
theorem violationsAfter_eq_nil_iff {earlier es : Entries Member α} :
    axis.violationsAfter earlier es = [] ↔
      (∀ entry ∈ es, isIdentifier entry.1 = true ∧ weightInRange entry.2.weight ∧
        decayInRange entry.2.repeatDecay = true ∧ ∀ m ∈ entry.2.members, axis.isValid m = true) ∧
      es.Pairwise (fun a b => a.1 ≠ b.1 ∧ ∀ m ∈ b.2.members, m ∉ a.2.members) ∧
      ∀ a ∈ earlier, ∀ b ∈ es, a.1 ≠ b.1 ∧ ∀ m ∈ b.2.members, m ∉ a.2.members := by
  induction es generalizing earlier with
  | nil => simp [violationsAfter]
  | cons entry es ih =>
    obtain ⟨name, e⟩ := entry
    rw [violationsAfter, List.append_eq_nil_iff, groupViolations_eq_nil_iff, ih]
    simp only [List.forall_mem_cons, List.pairwise_cons, List.mem_append, List.mem_singleton]
    constructor
    · rintro ⟨⟨named, fresh, weight, decay, members⟩, rest, apart, before⟩
      refine ⟨⟨⟨named, weight, decay, fun m hm => (members m hm).1⟩, rest⟩,
        ⟨before (name, e) (.inr rfl), apart⟩, fun a ha => ⟨⟨?_, ?_⟩, before a (.inl ha)⟩⟩
      · exact fun same => fresh (List.mem_map.2 ⟨a, ha, same⟩)
      · exact fun m hm => (members m hm).2 a ha
    · rintro ⟨⟨⟨named, weight, decay, members⟩, rest⟩, ⟨next, apart⟩, before⟩
      refine ⟨⟨named, ?_, weight, decay, fun m hm => ⟨members m hm, ?_⟩⟩, rest, apart, ?_⟩
      · intro taken
        obtain ⟨a, ha, same⟩ := List.mem_map.1 taken
        exact (before a ha).1.1 same
      · exact fun a ha => (before a ha).1.2 m hm
      · rintro a (ha | rfl)
        · exact (before a ha).2
        · exact next

theorem violations_eq_nil_iff {es : Entries Member α} : axis.violations es = [] ↔ axis.Valid es := by
  have decays (d : α) : decayInRange d = true ↔
      Scalar.le (Scalar.ofNat 0) d = true ∧ Scalar.le d (Scalar.ofNat 1) = true := by
    rw [decayInRange, Bool.and_eq_true]
  unfold violations
  constructor
  · intro none
    by_cases empty : es = []
    · rw [if_pos empty] at none
      cases none
    rw [if_neg empty, violationsAfter_eq_nil_iff] at none
    obtain ⟨each, pairs, _⟩ := none
    refine ⟨empty, fun entry h => (each entry h).1, ?distinct, fun entry h => (each entry h).2.1,
      fun entry h => (decays _).1 (each entry h).2.2.1, fun entry h => (each entry h).2.2.2, ?apart⟩
    case distinct => exact List.pairwise_map.2 (pairs.imp And.left)
    case apart => exact pairs.imp fun h m hm hm' => h.2 m hm' hm
  · intro valid
    rw [if_neg valid.nonempty, violationsAfter_eq_nil_iff]
    refine ⟨fun entry h => ⟨valid.named entry h, valid.weight entry h, (decays _).2 (valid.decay entry h),
      valid.members entry h⟩, ?_, by simp⟩
    refine ((List.pairwise_map.1 valid.distinct).and valid.apart).imp ?_
    exact fun h => ⟨h.1, fun m hm hm' => h.2 m hm' hm⟩

end Axis

/-- Nothing is wrong with a document exactly if its groups of both kinds are valid. -/
theorem Document.violations_eq_nil_iff [Scalar α] {d : Document α} :
    d.violations = [] ↔ Axis.map.Valid d.groups ∧ Axis.environment.Valid d.environments := by
  rw [Document.violations, List.append_eq_nil_iff, Axis.violations_eq_nil_iff,
    Axis.violations_eq_nil_iff]

/-! ## Accepted groups -/

/-- A group is that of an entry: with its name, its weight and its decay, and each of its members where
it is listed first. -/
structure Resolves (entry : String × Entry Member α) (g : Group Member α) : Prop where
  name : g.name = entry.1
  weight : (g.weight : Int) = entry.2.weight
  repeatDecay : g.repeatDecay = entry.2.repeatDecay
  members : g.members = entry.2.members.eraseDups

omit [LawfulBEq Member] in
theorem resolves_ofEntry {entry : String × Entry Member α} (h : weightInRange entry.2.weight) :
    Resolves entry (Group.ofEntry entry) :=
  ⟨rfl, Int.toNat_of_nonneg h.1, rfl, rfl⟩

/-- Where nothing is listed in two groups, looking up a member finds exactly the group that lists it. -/
theorem groupOf?_eq_some_iff {groups : List (Group Member α)}
    (apart : groups.Pairwise fun a b => ∀ m ∈ a.members, m ∉ b.members) {m : Member}
    {g : Group Member α} : groupOf? groups m = some g ↔ g ∈ groups ∧ m ∈ g.members := by
  unfold groupOf?
  constructor
  · intro found
    exact ⟨List.mem_of_find?_eq_some found, by simpa using List.find?_some found⟩
  · rintro ⟨hg, hm⟩
    induction groups with
    | nil => cases hg
    | cons first groups ih =>
      obtain ⟨others, apart⟩ := List.pairwise_cons.1 apart
      rcases List.mem_cons.1 hg with rfl | hg
      · rw [List.find?_cons_of_pos (by simpa using hm)]
      · have skipped : m ∉ first.members := fun hf => others g hg m hf hm
        rw [List.find?_cons_of_neg (by simpa using skipped)]
        exact ih apart hg

/-- A member has no group exactly if no entry lists it. -/
theorem groupOf?_ofEntry_eq_none_iff {es : Entries Member α} {m : Member} :
    groupOf? (es.map Group.ofEntry) m = none ↔ ∀ entry ∈ es, m ∉ entry.2.members := by
  rw [← Option.map_eq_none_iff (f := Group.name), groupOf?_ofEntry, listedIn?,
    Option.map_eq_none_iff, List.find?_eq_none]
  simp

/-- What comes of accepted groups of one kind, and of looking up a member among them. -/
structure Accepted (es : Entries Member α) (groups : List (Group Member α))
    (groupOf? : Member → Option (Group Member α)) : Prop where
  /-- The groups are those of the entries, in their order. -/
  resolved : List.Forall₂ Resolves es groups
  /-- The group that is found is the only one that has the member. -/
  found : ∀ m g, groupOf? m = some g ↔ g ∈ groups ∧ m ∈ g.members
  /-- None is found exactly if no entry lists the member. -/
  unfound : ∀ m, groupOf? m = none ↔ ∀ entry ∈ es, m ∉ entry.2.members

/-- Valid entries come to accepted groups. -/
theorem Axis.Valid.accepted [Scalar α] {axis : Axis Member} {es : Entries Member α}
    (h : axis.Valid es) :
    Accepted es (es.map Group.ofEntry) (groupOf? (es.map Group.ofEntry)) where
  resolved := List.forall₂_map_right_iff.2
    (List.forall₂_same.2 fun entry hentry => resolves_ofEntry (h.weight entry hentry))
  found m g := by
    refine groupOf?_eq_some_iff (List.pairwise_map.2 (h.apart.imp ?_))
    intro a b apart m
    simpa [Group.ofEntry] using apart m
  unfound _ := groupOf?_ofEntry_eq_none_iff

end

/-- **Validation is all or nothing.** It gives the groups as they were written if nothing is wrong with
the document, and else it reports the first thing that is. -/
theorem Parameters.ofDocument_eq [Scalar α] (d : Document α) :
    Parameters.ofDocument d = unlessAny d.violations
      ⟨d.groups.map Group.ofEntry, d.environments.map Group.ofEntry⟩ := by
  unfold Parameters.ofDocument Document.violations
  rw [Axis.readGroups_eq, Axis.readGroups_eq, unlessAny_append]
  cases Axis.map.violations d.groups with
  | cons problem _ => rfl
  | nil => cases Axis.environment.violations d.environments <;> rfl

/-- **Validation, completely.** A document is accepted exactly if its map groups and its environment
groups are valid; what comes of accepted groups is `Accepted`, also if members are looked up by an index
that was filled while the groups were validated; and of a document that is not accepted, the first thing
that is wrong with it is reported. -/
theorem Parameters.ofDocument_complete [Scalar α] (d : Document α) :
    ((∃ p, Parameters.ofDocument d = .ok p) ↔
      Axis.map.Valid d.groups ∧ Axis.environment.Valid d.environments) ∧
    (∀ p, Parameters.ofDocument d = .ok p →
      Accepted d.groups p.mapGroups p.mapGroupOf? ∧
      Accepted d.environments p.environmentGroups p.environmentGroupOf?) ∧
    (∀ problem, Parameters.ofDocument d = .error problem ↔ d.violations.head? = some problem) ∧
    Parameters.ofDocument? d = some ((Parameters.ofDocument d).map Parameters.indexed) ∧
    ∀ p : Parameters α, (∀ m, p.indexed.mapGroupOf? m = some (p.mapGroupOf? m)) ∧
      ∀ e, p.indexed.environmentGroupOf? e = some (p.environmentGroupOf? e) := by
  refine ⟨?accepts, ?accepted, ?rejected, ofDocument?_eq d, fun p => ⟨?_, ?_⟩⟩
  case accepts =>
    rw [← Document.violations_eq_nil_iff, Parameters.ofDocument_eq]
    simp only [unlessAny_eq_ok_iff, exists_and_left, exists_eq', and_true]
  case accepted =>
    intro p h
    rw [Parameters.ofDocument_eq] at h
    obtain ⟨none, rfl⟩ := unlessAny_eq_ok_iff.1 h
    obtain ⟨maps, environments⟩ := Document.violations_eq_nil_iff.1 none
    exact ⟨maps.accepted, environments.accepted⟩
  case rejected =>
    intro problem
    rw [Parameters.ofDocument_eq, unlessAny_eq_error_iff]
  · exact groupAt?_eq p.mapGroups
  · exact groupAt?_eq p.environmentGroups

/-- A document in which a group lists a map twice. -/
def repeatingDocument : Document Rat :=
  ⟨[("Top", ⟨80, 1 / 2, ["foy", "kursk", "foy"]⟩), ("Rest", ⟨0, 1, ["stmereeglise"]⟩)],
    [("Day", ⟨100, 1 / 10, [.day, .dawn]⟩)]⟩

/-- A document in which two groups list one map, and whose environment group weighs too much. -/
def sharingDocument : Document Rat :=
  ⟨[("Top", ⟨80, 1 / 2, ["foy"]⟩), ("Rest", ⟨20, 1, ["kursk", "foy", "?"]⟩)],
    [("Day", ⟨101, 1 / 10, [.day]⟩)]⟩

/-- A map that a group lists twice is a member of it once. A map that two groups list is the first thing
that is wrong, ahead of what is wrong with the map after it and with the environments. -/
theorem ofDocument_complete_repeated :
    (∃ p, Parameters.ofDocument repeatingDocument = .ok p ∧
      p.mapGroups.map Group.members = [["foy", "kursk"], ["stmereeglise"]] ∧
      Accepted repeatingDocument.groups p.mapGroups p.mapGroupOf?) ∧
    Parameters.ofDocument sharingDocument = .error (.duplicateMember .map "foy" "Top" "Rest") := by
  have accepted : Parameters.ofDocument repeatingDocument =
      .ok ⟨[⟨"Top", 80, 1 / 2, ["foy", "kursk"]⟩, ⟨"Rest", 0, 1, ["stmereeglise"]⟩],
        [⟨"Day", 100, 1 / 10, [.day, .dawn]⟩]⟩ := by decide +kernel
  have first : sharingDocument.violations.head? =
      some (.duplicateMember .map "foy" "Top" "Rest") := by decide +kernel
  exact ⟨⟨_, accepted, rfl, ((Parameters.ofDocument_complete repeatingDocument).2.1 _ accepted).1⟩,
    ((Parameters.ofDocument_complete sharingDocument).2.2.1 _).2 first⟩

end MapBallot.Weighting
