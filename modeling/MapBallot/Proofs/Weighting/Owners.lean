import MapBallot.Proofs.Table
import MapBallot.Weighting.Parameters

/-!
# `MapBallot.Proofs.Weighting.Owners` — validation with an index of the members

The group of a member can be found in an index that is filled while the groups are validated: a table
that holds, for each member, the position of the group that owns it. Here are validation and looking up
with such an index; each of them gives nothing when a position is that of no group. This does not happen,
and the index leads to the group that a search through all groups finds.

## Contents

* `Axis.readGroups?`, `Parameters.ofDocument?` — validation that fills an index for each kind;
* `groupAt?` — looking up by an index; `ownersOf`, `Parameters.indexed` — the index of validated groups;
* `readMembers?_eq`, `readGroups?_eq`, `ofDocument?_eq`, `groupAt?_eq` — no position is missed.
-/

namespace MapBallot.Weighting

variable {Member α : Type} [DecidableEq Member]

/-! ## Validation that fills an index -/

namespace Axis

/-- Adds the listed members to those of a group that comes after some groups. Members that are owned by
that group already are dropped. -/
def readMembers? (axis : Axis Member) (groups : List (Group Member α)) (name : String) :
    Table Member Nat → List Member → List Member →
      Option (Except (Problem α) (Table Member Nat × List Member))
  | owners, members, [] => some (.ok (owners, members))
  | owners, members, m :: ms =>
    if !axis.isValid m then some (.error (.invalidIdentifier axis.kind name (axis.name m)))
    else
      match owners m with
      | some owner =>
        if owner = groups.length then axis.readMembers? groups name owners members ms
        else do
          let first ← groups[owner]?
          some (.error (.duplicateMember axis.kind (axis.name m) first.name name))
      | none =>
        axis.readMembers? groups name (owners.enter m groups.length) (members ++ [m]) ms

variable [Scalar α]

/-- Validates a group that comes after some groups, whose members are in the index. -/
def readGroup? (axis : Axis Member) (groups : List (Group Member α)) (owners : Table Member Nat)
    (name : String) (e : Entry Member α) :
    Option (Except (Problem α) (Table Member Nat × Group Member α)) :=
  if !isIdentifier name then some (.error (.invalidIdentifier axis.kind name name))
  else if groups.any (·.name == name) then some (.error (.duplicateGroup axis.kind name))
  else if e.weight < 0 || (maxWeight : Int) < e.weight then
    some (.error (.weightOutOfRange axis.kind name e.weight))
  else if !decayInRange e.repeatDecay then
    some (.error (.repeatDecayOutOfRange axis.kind name e.repeatDecay))
  else do
    match ← axis.readMembers? groups name owners [] e.members with
    | .ok (owners, members) =>
      some (.ok (owners, ⟨name, e.weight.toNat, e.repeatDecay, members⟩))
    | .error problem => some (.error problem)

/-- Validates the groups that follow some groups, whose members are in the index. -/
def readGroupsAfter? (axis : Axis Member) :
    List (Group Member α) → Table Member Nat → Entries Member α →
      Option (Except (Problem α) (List (Group Member α) × Table Member Nat))
  | groups, owners, [] => some (.ok (groups, owners))
  | groups, owners, (name, e) :: es => do
    match ← axis.readGroup? groups owners name e with
    | .ok (owners, g) => axis.readGroupsAfter? (groups ++ [g]) owners es
    | .error problem => some (.error problem)

/-- Validates the groups of one kind, and fills their index. -/
def readGroups? (axis : Axis Member) (es : Entries Member α) :
    Option (Except (Problem α) (List (Group Member α) × Table Member Nat)) :=
  if es.isEmpty then some (.error (.missingGroups axis.kind))
  else axis.readGroupsAfter? [] (fun _ => none) es

end Axis

/-- Weighting parameters with the index of each kind. -/
structure Indexed (α : Type) where
  parameters : Parameters α
  mapOwners : Table String Nat
  environmentOwners : Table Environment Nat

/-- Validates a document, its map groups first, and fills an index for each kind. -/
def Parameters.ofDocument? [Scalar α] (d : Document α) :
    Option (Except (Problem α) (Indexed α)) := do
  match ← Axis.map.readGroups? d.groups with
  | .error problem => some (.error problem)
  | .ok (mapGroups, mapOwners) =>
    match ← Axis.environment.readGroups? d.environments with
    | .error problem => some (.error problem)
    | .ok (environmentGroups, environmentOwners) =>
      some (.ok ⟨⟨mapGroups, environmentGroups⟩, mapOwners, environmentOwners⟩)

/-- The group of a member by the index, if there is one. -/
def groupAt? (groups : List (Group Member α)) (owners : Table Member Nat) (m : Member) :
    Option (Option (Group Member α)) :=
  match owners m with
  | none => some none
  | some owner => groups[owner]?.map some

/-- The group of a map by the index, if there is one. -/
def Indexed.mapGroupOf? (x : Indexed α) (map : String) : Option (Option (Group String α)) :=
  groupAt? x.parameters.mapGroups x.mapOwners map

/-- The group of an environment by the index, if there is one. -/
def Indexed.environmentGroupOf? (x : Indexed α) (e : Environment) :
    Option (Option (Group Environment α)) :=
  groupAt? x.parameters.environmentGroups x.environmentOwners e

/-! ## The index of validated groups -/

/-- The index of some groups: the position of the first group that lists a member. -/
def ownersOf (groups : List (Group Member α)) : Table Member Nat :=
  fun m => groups.findIdx? (·.members.contains m)

/-- The index of some groups and of the members of the next one. -/
def ownersWith (groups : List (Group Member α)) (members : List Member) : Table Member Nat :=
  fun m => (ownersOf groups m).or (if m ∈ members then some groups.length else none)

theorem ownersWith_nil (groups : List (Group Member α)) :
    ownersWith groups [] = ownersOf groups := by
  funext m
  simp [ownersWith]

theorem ownersOf_append_singleton (groups : List (Group Member α)) (g : Group Member α) :
    ownersOf (groups ++ [g]) = ownersWith groups g.members := by
  funext m
  rw [ownersOf, List.findIdx?_append, ownersWith, ownersOf]
  by_cases listed : m ∈ g.members <;> simp [listed]

/-- Entering a member that no earlier group owns adds it to the members of the next group. -/
theorem enter_ownersWith {groups : List (Group Member α)} {m : Member} (members : List Member)
    (unowned : ownersOf groups m = none) :
    (ownersWith groups members).enter m groups.length = ownersWith groups (members ++ [m]) := by
  funext k
  by_cases same : k = m
  · rw [same, Table.enter_self, ownersWith, unowned]
    simp
  · rw [Table.enter_of_ne _ _ same, ownersWith, ownersWith]
    simp [same]

/-- The group at the position in the index is the first one that lists the member. -/
theorem ownersOf_bind (groups : List (Group Member α)) (m : Member) :
    (ownersOf groups m).bind (groups[·]?) = groupOf? groups m :=
  List.find?_eq_bind_findIdx?_getElem?.symm

theorem groupAt?_eq (groups : List (Group Member α)) (m : Member) :
    groupAt? groups (ownersOf groups) m = some (groupOf? groups m) := by
  rw [← ownersOf_bind]
  unfold groupAt?
  cases found : ownersOf groups m with
  | none => rfl
  | some owner =>
    obtain ⟨inRange, _⟩ := List.findIdx?_eq_some_iff_getElem.1 found
    simp [List.getElem?_eq_getElem inRange]

/-- Weighting parameters with the indexes of their groups. -/
def Parameters.indexed (p : Parameters α) : Indexed α :=
  ⟨p, ownersOf p.mapGroups, ownersOf p.environmentGroups⟩

namespace Axis

variable {axis : Axis Member} {groups : List (Group Member α)}

/-- Reading members by the index misses no position and gives what it gives without an index. -/
theorem readMembers?_eq (name : String) (members ms : List Member) :
    axis.readMembers? groups name (ownersWith groups members) members ms =
      some ((axis.readMembers groups name members ms).map fun r => (ownersWith groups r, r)) := by
  induction ms generalizing members with
  | nil => rfl
  | cons m ms ih =>
    unfold readMembers? readMembers
    by_cases valid : (!axis.isValid m) = true
    · rw [if_pos valid, if_pos valid]
      rfl
    rw [if_neg valid, if_neg valid, ← ownersOf_bind]
    cases found : ownersOf groups m with
    | some owner =>
      -- An earlier group owns the member, at a position before the next one.
      have owned : ownersWith groups members m = some owner := by rw [ownersWith, found]; rfl
      obtain ⟨inRange, _⟩ := List.findIdx?_eq_some_iff_getElem.1 found
      rw [owned]
      dsimp only [Option.bind_some]
      rw [if_neg (Nat.ne_of_lt inRange), List.getElem?_eq_getElem inRange]
      rfl
    | none =>
      dsimp only [Option.bind_none]
      by_cases again : m ∈ members
      · have owned : ownersWith groups members m = some groups.length := by
          rw [ownersWith, found, if_pos again]
          rfl
        rw [owned]
        dsimp only
        rw [if_pos rfl, if_pos (by simpa using again)]
        exact ih members
      · have fresh : ownersWith groups members m = none := by
          rw [ownersWith, found, if_neg again]
          rfl
        rw [fresh]
        dsimp only
        rw [enter_ownersWith members found, if_neg (by simpa using again)]
        exact ih _

variable [Scalar α]

theorem readGroup?_eq (name : String) (e : Entry Member α) :
    axis.readGroup? groups (ownersOf groups) name e =
      some ((axis.readGroup groups name e).map fun g => (ownersOf (groups ++ [g]), g)) := by
  unfold readGroup? readGroup
  by_cases named : (!isIdentifier name) = true
  · rw [if_pos named, if_pos named]
    rfl
  rw [if_neg named, if_neg named]
  by_cases taken : groups.any (·.name == name) = true
  · rw [if_pos taken, if_pos taken]
    rfl
  rw [if_neg taken, if_neg taken]
  by_cases weight : (e.weight < 0 || (maxWeight : Int) < e.weight) = true
  · rw [if_pos weight, if_pos weight]
    rfl
  rw [if_neg weight, if_neg weight]
  by_cases decay : (!decayInRange e.repeatDecay) = true
  · rw [if_pos decay, if_pos decay]
    rfl
  rw [if_neg decay, if_neg decay, ← ownersWith_nil, readMembers?_eq]
  cases axis.readMembers groups name [] e.members with
  | error problem => rfl
  | ok members =>
    simp only [Except.map, ownersOf_append_singleton]
    rfl

theorem readGroupsAfter?_eq (es : Entries Member α) :
    axis.readGroupsAfter? groups (ownersOf groups) es =
      some ((axis.readGroupsAfter groups es).map fun gs => (gs, ownersOf gs)) := by
  induction es generalizing groups with
  | nil => rfl
  | cons entry es ih =>
    obtain ⟨name, e⟩ := entry
    unfold readGroupsAfter? readGroupsAfter
    rw [readGroup?_eq]
    cases axis.readGroup groups name e with
    | error problem => rfl
    | ok g => exact ih

theorem readGroups?_eq (es : Entries Member α) :
    axis.readGroups? es = some ((axis.readGroups es).map fun gs => (gs, ownersOf gs)) := by
  unfold readGroups? readGroups
  by_cases empty : es.isEmpty = true
  · rw [if_pos empty, if_pos empty]
    rfl
  · rw [if_neg empty, if_neg empty]
    exact readGroupsAfter?_eq es

end Axis

/-- **Validation that fills indexes misses no position.** It accepts the documents that validation
without them accepts, for the same parameters, and it reports the same problems. -/
theorem Parameters.ofDocument?_eq [Scalar α] (d : Document α) :
    Parameters.ofDocument? d = some ((Parameters.ofDocument d).map Parameters.indexed) := by
  unfold Parameters.ofDocument? Parameters.ofDocument
  rw [Axis.readGroups?_eq, Axis.readGroups?_eq]
  cases Axis.map.readGroups d.groups with
  | error problem => rfl
  | ok mapGroups =>
    cases Axis.environment.readGroups d.environments with
    | error problem => rfl
    | ok environmentGroups => rfl

end MapBallot.Weighting
