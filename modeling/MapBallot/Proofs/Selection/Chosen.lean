import MapBallot.Proofs.Selection.Plan

/-!
# `MapBallot.Proofs.Selection.Chosen` — what a choice consists of, whatever the scores are

`selectPlan_complete` is about exact scores. Scores that are rounded may sum up to something that cannot
be drawn from, so less is known of when a choice is made. What is known of a choice that was made is the
same: each mode's share, of the layers that the exclusion rules leave of the catalog, and no id twice.

## Contents

* `drawFrom_drawnFrom`, `drawRequests_shares` — what was drawn left the pools;
* `selectPlan_shares` — a choice is each mode's share;
* `layer_mem_of_selectPlan`, `layerIds_nodup_of_selectPlan` — its layers and its ids.
-/

namespace MapBallot

open Weighting (Parameters)

variable {α : Type} [Scalar α]

namespace Selection

/-- Layers that were drawn left the pool, one for each draw. -/
theorem drawFrom_drawnFrom {pool drawn : List (Scored α)} {count : Nat} {mode : Option GameMode}
    {stream rest : RandomStream} (h : drawFrom pool count mode stream = (.ok drawn, rest)) :
    DrawnFrom pool count drawn := by
  obtain ⟨enough, rfl, rfl⟩ := eq_picks_of_drawFrom h
  exact drawnFrom_picks enough stream

/-- Layers that were drawn for several modes are the shares of the modes. -/
theorem drawRequests_shares {scored drawn : List (Scored α)} {count : GameMode → Nat}
    {modes : List GameMode} (distinct : modes.Nodup) {stream rest : RandomStream}
    (h : drawRequests scored (requestsOf count modes) stream = (.ok drawn, rest)) :
    ∃ block, drawn = modes.flatMap block ∧
      ∀ m ∈ modes, DrawnFrom (poolOf scored m) (count m) (block m) := by
  induction modes generalizing drawn stream rest with
  | nil =>
    cases h
    exact ⟨fun _ => [], rfl, by simp⟩
  | cons m modes ih =>
    obtain ⟨fresh, distinct⟩ := List.nodup_cons.1 distinct
    -- The share of the first mode; without a request, it is empty.
    obtain ⟨share, others, between, rfl, first, ho⟩ : ∃ share others between,
        drawn = share ++ others ∧ DrawnFrom (poolOf scored m) (count m) share ∧
        drawRequests scored (requestsOf count modes) between = (.ok others, rest) := by
      by_cases none : count m = 0
      · rw [requestsOf_cons_of_zero none] at h
        exact ⟨[], drawn, stream, rfl, ⟨none.symm, poolOf scored m, .refl _⟩, h⟩
      · rw [requestsOf_cons_of_pos none, drawRequests] at h
        cases hd : drawFrom (poolOf scored m) (count m) (some m) stream with
        | mk result between =>
          rw [hd] at h
          cases result with
          | error e => cases h
          | ok share =>
            dsimp only at h
            cases hr : drawRequests scored (requestsOf count modes) between with
            | mk result rest' =>
              rw [hr] at h
              cases result with
              | error e => cases h
              | ok others =>
                cases h
                exact ⟨share, others, between, rfl, drawFrom_drawnFrom hd, hr⟩
    obtain ⟨block, rfl, shares⟩ := ih distinct ho
    refine ⟨Function.update block m share, (flatMap_update block fresh share).symm, ?_⟩
    intro m' hm'
    by_cases same : m' = m
    · subst same
      rwa [Function.update_self]
    · rw [Function.update_of_ne same]
      exact shares m' ((List.mem_cons.1 hm').resolve_left same)

end Selection

variable {parameters : Parameters α} {history : History} {catalog : List Layer} {plan : Plan}
  {policy : Policy} {stream : RandomStream} {selection : Selection α}

/-- **A choice for a plan is each mode's share**, of the layers that can be drawn of those that the
exclusion rules leave. -/
theorem selectPlan_shares
    (h : (selectPlan parameters history catalog plan policy stream).1 = .ok selection) :
    Shares (scoreCatalog parameters history (eligibleLayers history catalog policy) policy)
      (restrictedPlan history catalog plan policy).count selection.candidates := by
  have listed : catalog ≠ [] := by
    rintro rfl
    cases h
  have asked : plan.total ≠ 0 ∧ (restrictedPlan history catalog plan policy).total ≠ 0 := by
    by_contra none
    rw [← not_or, not_not] at none
    rw [selectPlan_emptyPlan listed none] at h
    cases h
  rw [selectPlan_eq listed asked.1 asked.2, requests_eq] at h
  cases hd : Selection.drawRequests
      (scoreCatalog parameters history (eligibleLayers history catalog policy) policy)
      (Selection.requestsOf (restrictedPlan history catalog plan policy).count GameMode.all)
      stream with
  | mk result rest =>
    rw [hd] at h
    cases result with
    | error e => cases h
    | ok drawn =>
      cases h
      obtain ⟨block, rfl, shares⟩ := Selection.drawRequests_shares (by decide) hd
      exact shares_of_drawnFrom fun m => shares m m.mem_all

/-- A chosen layer is one that the exclusion rules leave of the catalog. -/
theorem layer_mem_of_selectPlan
    (h : (selectPlan parameters history catalog plan policy stream).1 = .ok selection) {s : Scored α}
    (hs : s ∈ selection.candidates) : s.layer ∈ eligibleLayers history catalog policy := by
  obtain ⟨block, hb, shares⟩ := (selectPlan_shares h).shares
  rw [hb] at hs
  obtain ⟨m, _, hm⟩ := List.mem_flatMap.1 hs
  exact layer_mem_of_mem_scoreCatalog ((shares m).2 s hm).1

theorem layerIds_nodup_of_selectPlan
    (h : (selectPlan parameters history catalog plan policy stream).1 = .ok selection) :
    selection.layerIds.Nodup := (selectPlan_shares h).distinct

end MapBallot
