import Mathlib.Data.List.Nodup
import MapBallot.Score.Catalog

/-!
# `MapBallot.Proofs.Score.Catalog` — what can be drawn from a catalog

## Contents

* `distinctById_ascending`, `rawScores_ascending`, `scoreCatalog_ascending` — each id is there once,
  whatever the catalog repeats;
* `scoreCatalog_drawable` — every score is positive;
* `layer_mem_of_mem_scoreCatalog` — every layer is one of the catalog.
-/

namespace MapBallot

open Weighting (Parameters)

variable {α : Type}

theorem distinctById_ascending (catalog : List Layer) :
    (distinctById catalog).Pairwise fun a b => a.id < b.id := by
  have trans : ∀ a b c : Layer, decide (a.id < b.id) = true → decide (b.id < c.id) = true →
      decide (a.id < c.id) = true := by
    intro a b c hab hbc
    rw [decide_eq_true_iff] at hab hbc ⊢
    exact String.lt_trans hab hbc
  refine (Ascending.pairwise_arrange trans catalog).imp fun h => ?_
  exact of_decide_eq_true h

section

variable [Scalar α] {parameters : Parameters α} {history : History} {horizon : Nat}
  {catalog : List Layer} {policy : Policy}

/-- A scored layer is the layer itself, and it has both groups. -/
theorem rawScore?_eq_some {l : Layer} {s : Scored α} :
    rawScore? parameters history horizon l = some s ↔
      ∃ mapGroup environmentGroup, parameters.mapGroupOf? l.map = some mapGroup ∧
        parameters.environmentGroupOf? l.environment = some environmentGroup ∧
        s = ⟨l, groupScore history horizon l.map mapGroup environmentGroup⟩ := by
  unfold rawScore?
  cases parameters.mapGroupOf? l.map with
  | none => simp
  | some mapGroup =>
    cases parameters.environmentGroupOf? l.environment with
    | none => simp
    | some environmentGroup => simp [eq_comm]

theorem rawScores_ascending (parameters : Parameters α) (history : History) (horizon : Nat)
    (catalog : List Layer) :
    (rawScores parameters history horizon catalog).Pairwise fun a b => a.layer.id < b.layer.id := by
  refine List.Pairwise.filterMap _ ?_ (distinctById_ascending catalog)
  intro a b hab s hs s' hs'
  obtain ⟨_, _, _, _, rfl⟩ := rawScore?_eq_some.1 hs
  obtain ⟨_, _, _, _, rfl⟩ := rawScore?_eq_some.1 hs'
  exact hab

/-- **Each id can be drawn once.** The layers that can be drawn are in strictly ascending order of
their ids, even if the catalog repeats some. -/
theorem scoreCatalog_ascending (parameters : Parameters α) (history : History)
    (catalog : List Layer) (policy : Policy) :
    (scoreCatalog parameters history catalog policy).Pairwise fun a b => a.layer.id < b.layer.id := by
  unfold scoreCatalog
  refine List.Pairwise.filter _ ?_
  have raw := rawScores_ascending parameters history policy.recencyHorizon.toNat catalog
  by_cases normalize : policy.normalizeLayerCounts = true
  · rw [if_pos normalize]
    exact List.pairwise_map.2 raw
  · rw [if_neg normalize]
    exact raw

theorem scoreCatalog_drawable {s : Scored α} (h : s ∈ scoreCatalog parameters history catalog policy) :
    isDrawable s = true := (List.mem_filter.1 h).2

theorem scoreCatalog_nodup (parameters : Parameters α) (history : History) (catalog : List Layer)
    (policy : Policy) :
    ((scoreCatalog parameters history catalog policy).map (·.layer.id)).Nodup := by
  refine List.pairwise_map.2 ((scoreCatalog_ascending parameters history catalog policy).imp ?_)
  intro a b hab same
  rw [same] at hab
  exact String.lt_irrefl _ hab

theorem layer_mem_of_mem_rawScores {s : Scored α} (h : s ∈ rawScores parameters history horizon catalog) :
    s.layer ∈ catalog := by
  obtain ⟨l, hl, hs⟩ := List.mem_filterMap.1 h
  obtain ⟨_, _, _, _, rfl⟩ := rawScore?_eq_some.1 hs
  exact Ascending.mem_of_mem_arrange hl

/-- A layer that can be drawn is one of the catalog. -/
theorem layer_mem_of_mem_scoreCatalog {s : Scored α}
    (h : s ∈ scoreCatalog parameters history catalog policy) : s.layer ∈ catalog := by
  have listed := (List.mem_filter.1 h).1
  by_cases normalize : policy.normalizeLayerCounts = true
  · rw [if_pos normalize] at listed
    obtain ⟨raw, hr, rfl⟩ := List.mem_map.1 listed
    exact (layer_mem_of_mem_rawScores hr : raw.layer ∈ catalog)
  · rw [if_neg normalize] at listed
    exact layer_mem_of_mem_rawScores listed

/-- An id determines the layer and its score. -/
theorem scoreCatalog_eq_of_id {s s' : Scored α}
    (h : s ∈ scoreCatalog parameters history catalog policy)
    (h' : s' ∈ scoreCatalog parameters history catalog policy) (hid : s.layer.id = s'.layer.id) :
    s = s' :=
  List.inj_on_of_nodup_map (scoreCatalog_nodup parameters history catalog policy) h h' hid

end

/-- Exact scores can be drawn with if they are positive. -/
theorem isDrawable_iff {s : Scored Rat} : isDrawable s = true ↔ 0 < s.score := by
  show (decide ((0 : Nat) < s.score) && true) = true ↔ 0 < s.score
  simp

end MapBallot
