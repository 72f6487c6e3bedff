import MapBallot.Proofs.Weighting.Validation

/-!
# `MapBallot.Proofs.Weighting.Parameters` — what holds of validated groups

## Contents

* `ofDocument_names` — the validated groups of one kind have names of their own;
* `groupNamed?_eq_some` — so a name finds its group;
* `Group.InRange`, `ofDocument_inRange` — their weights and decays are in their ranges.
-/

namespace MapBallot.Weighting

variable {Member α : Type}

/-- **Validated groups of one kind have names of their own.** -/
theorem Parameters.ofDocument_names [Scalar α] {d : Document α} {p : Parameters α}
    (h : Parameters.ofDocument d = .ok p) :
    (p.mapGroups.map Group.name).Nodup ∧ (p.environmentGroups.map Group.name).Nodup := by
  rw [Parameters.ofDocument_eq] at h
  obtain ⟨none, rfl⟩ := unlessAny_eq_ok_iff.1 h
  obtain ⟨maps, environments⟩ := Document.violations_eq_nil_iff.1 none
  rw [List.map_map, List.map_map]
  exact ⟨maps.distinct, environments.distinct⟩

/-- Where names are not repeated, a name finds its group. -/
theorem groupNamed?_eq_some {groups : List (Group Member α)} {g : Group Member α}
    (distinct : (groups.map Group.name).Nodup) (h : g ∈ groups) :
    groupNamed? groups g.name = some g := by
  induction groups with
  | nil => cases h
  | cons g' groups ih =>
    obtain ⟨fresh, rest⟩ := List.nodup_cons.1 distinct
    unfold groupNamed?
    rcases List.mem_cons.1 h with rfl | h
    · exact List.find?_cons_of_pos (by simp)
    · have other : g'.name ≠ g.name := by
        intro same
        exact fresh (same ▸ List.mem_map_of_mem h)
      rw [List.find?_cons_of_neg (by simpa using other)]
      exact ih rest h

/-- The weight and the decay of a group are in their ranges. -/
structure Group.InRange [Scalar α] (g : Group Member α) : Prop where
  weight : g.weight ≤ 100
  nonneg : Scalar.le (Scalar.ofNat 0) g.repeatDecay = true
  atMostOne : Scalar.le g.repeatDecay (Scalar.ofNat 1) = true

theorem Axis.Valid.inRange [BEq Member] [Scalar α] {axis : Axis Member} {es : Entries Member α}
    (h : axis.Valid es) : ∀ g ∈ es.map Group.ofEntry, g.InRange := by
  intro g hg
  obtain ⟨entry, hentry, rfl⟩ := List.mem_map.1 hg
  exact ⟨Int.toNat_le.2 (h.weight entry hentry).2, (h.decay entry hentry).1, (h.decay entry hentry).2⟩

/-- **Validated groups are in their ranges.** -/
theorem Parameters.ofDocument_inRange [Scalar α] {d : Document α} {p : Parameters α}
    (h : Parameters.ofDocument d = .ok p) :
    (∀ g ∈ p.mapGroups, g.InRange) ∧ ∀ g ∈ p.environmentGroups, g.InRange := by
  rw [Parameters.ofDocument_eq] at h
  obtain ⟨none, rfl⟩ := unlessAny_eq_ok_iff.1 h
  obtain ⟨maps, environments⟩ := Document.violations_eq_nil_iff.1 none
  exact ⟨maps.inRange, environments.inRange⟩

end MapBallot.Weighting
