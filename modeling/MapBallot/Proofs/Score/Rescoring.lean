import Mathlib.Algebra.Order.Field.Basic
import Mathlib.Algebra.Order.Field.Rat
import MapBallot.Proofs.Selection.Content

/-!
# `MapBallot.Proofs.Score.Rescoring` — scoring again what was returned

Layers with a score that is not positive cannot be drawn, and are not returned. If scores are normalized,
however, they are counted all the same: a layer that shares its mode, and its map or its environment, with
one of them has a lower score than it would have in a catalog without it. This is the only say that they
have. Without normalization, or where no layer that is returned shares any of this, scoring exactly the
returned layers gives the same scores again.

## Contents

* `Policy.finish`, `scoreCatalog_eq` — both ways of scoring as one;
* `countedLayers`, `drawableLayers`, `Diluted` — what is counted, what can be drawn, and which layers have
  a lower score for it;
* `rescore_eq`, `rescore_eq_self` — scoring the returned layers, whatever scores are computed in;
* `normalized_eq_iff`, `rescore` — the same with exact fractions.
-/

namespace MapBallot

open Weighting (Parameters)

variable {α : Type}

/-- The layers that are counted when scores are normalized: those that have groups. -/
def countedLayers (parameters : Parameters α) (catalog : List Layer) : List Layer :=
  (distinctById catalog).filter fun l =>
    (parameters.mapGroupOf? l.map).isSome && (parameters.environmentGroupOf? l.environment).isSome

theorem countedLayers_ascending (parameters : Parameters α) (catalog : List Layer) :
    (countedLayers parameters catalog).Pairwise fun a b => a.id < b.id :=
  (distinctById_ascending catalog).filter _

section

variable [Scalar α]

/-- What a policy makes of a score, among these layers. -/
def Policy.finish (policy : Policy) (ls : List Layer) (s : Scored α) : Scored α :=
  if policy.normalizeLayerCounts then normalized ls s else s

@[simp] theorem Policy.layer_finish (policy : Policy) (ls : List Layer) (s : Scored α) :
    (policy.finish ls s).layer = s.layer := by
  unfold finish
  split <;> rfl

/-- The layers that can be drawn. -/
def drawableLayers (parameters : Parameters α) (history : History) (catalog : List Layer)
    (policy : Policy) : List Layer :=
  (scoreCatalog parameters history catalog policy).map Scored.layer

/-- Some layer is counted for `l` but cannot be drawn. -/
def Diluted (parameters : Parameters α) (history : History) (catalog : List Layer) (policy : Policy)
    (l : Layer) : Prop :=
  ∃ o ∈ countedLayers parameters catalog, o ∉ drawableLayers parameters history catalog policy ∧
    o.gameMode = l.gameMode ∧ (o.map = l.map ∨ o.environment = l.environment)

variable {parameters : Parameters α} {history : History} {horizon : Nat} {catalog : List Layer}
  {policy : Policy}

/-! ## What is counted and what can be drawn -/

theorem map_layer_rawScores :
    (rawScores parameters history horizon catalog).map Scored.layer =
      countedLayers parameters catalog := by
  unfold rawScores countedLayers
  rw [List.map_filterMap, ← List.filterMap_eq_filter]
  refine List.filterMap_congr fun l _ => ?_
  unfold rawScore?
  cases map : parameters.mapGroupOf? l.map with
  | none => simp [Option.guard, map]
  | some mapGroup =>
    cases environment : parameters.environmentGroupOf? l.environment <;>
      simp [Option.guard, map, environment]

/-- The layers that can be drawn, with their scores before these are finished. -/
def drawableScores (parameters : Parameters α) (history : History) (catalog : List Layer)
    (policy : Policy) : List (Scored α) :=
  (rawScores parameters history policy.recencyHorizon.toNat catalog).filter fun s =>
    isDrawable (policy.finish (countedLayers parameters catalog) s)

/-- Scores are finished among all that is counted. -/
theorem scoreCatalog_eq :
    scoreCatalog parameters history catalog policy =
      (drawableScores parameters history catalog policy).map
        (policy.finish (countedLayers parameters catalog)) := by
  unfold scoreCatalog drawableScores
  dsimp only
  rw [map_layer_rawScores]
  unfold Policy.finish
  by_cases normalize : policy.normalizeLayerCounts = true
  · simp only [normalize, if_true]
    exact List.filter_map ..
  · simp only [normalize, Bool.false_eq_true, if_false]
    exact (List.map_id' _).symm

theorem drawableLayers_eq :
    drawableLayers parameters history catalog policy =
      (drawableScores parameters history catalog policy).map Scored.layer := by
  unfold drawableLayers
  rw [scoreCatalog_eq, List.map_map]
  exact List.map_congr_left fun s _ => Policy.layer_finish ..

theorem layer_mem_of_mem_drawableScores {s : Scored α}
    (h : s ∈ drawableScores parameters history catalog policy) :
    s.layer ∈ drawableLayers parameters history catalog policy := by
  rw [drawableLayers_eq]
  exact List.mem_map_of_mem h

theorem drawableLayers_ascending (parameters : Parameters α) (history : History)
    (catalog : List Layer) (policy : Policy) :
    (drawableLayers parameters history catalog policy).Pairwise fun a b => a.id < b.id :=
  List.pairwise_map.2 (scoreCatalog_ascending parameters history catalog policy)

/-- What can be drawn is counted. -/
theorem drawableLayers_eq_filter :
    drawableLayers parameters history catalog policy =
      (countedLayers parameters catalog).filter fun l =>
        l ∈ drawableLayers parameters history catalog policy := by
  refine eq_of_ascending (drawableLayers_ascending ..) ((countedLayers_ascending ..).filter _) fun l => ?_
  rw [List.mem_filter, decide_eq_true_iff]
  refine ⟨fun drawable => ⟨?_, drawable⟩, And.right⟩
  have counted : (rawScores parameters history policy.recencyHorizon.toNat catalog).map Scored.layer =
      countedLayers parameters catalog := map_layer_rawScores
  rw [drawableLayers_eq] at drawable
  rw [← counted]
  exact ((List.filter_sublist ..).map _).mem drawable

theorem distinctById_eq_self {ls : List Layer} (h : ls.Pairwise fun a b => a.id < b.id) :
    distinctById ls = ls := by
  refine Ascending.arrange_eq_self (fun a b before => ?_) (h.imp fun before => by simpa using before)
  rw [decide_eq_true_iff] at before
  exact decide_eq_false (String.lt_asymm before)

theorem rawScore?_layer {s : Scored α} (h : s ∈ rawScores parameters history horizon catalog) :
    rawScore? parameters history horizon s.layer = some s := by
  obtain ⟨l, _, scored⟩ := List.mem_filterMap.1 h
  obtain ⟨_, _, _, _, rfl⟩ := rawScore?_eq_some.1 scored
  exact scored

/-- Some of the layers have the scores that they have among all, before these are finished. -/
theorem rawScores_filter (keep : Scored α → Bool) :
    rawScores parameters history horizon
        (((rawScores parameters history horizon catalog).filter keep).map Scored.layer) =
      (rawScores parameters history horizon catalog).filter keep := by
  have ascending : (((rawScores parameters history horizon catalog).filter keep).map
      Scored.layer).Pairwise fun a b => a.id < b.id :=
    List.pairwise_map.2 ((rawScores_ascending ..).filter keep)
  rw [rawScores, distinctById_eq_self ascending, List.filterMap_map]
  refine (List.filterMap_congr fun s hs => ?_).trans List.filterMap_some
  exact rawScore?_layer (List.mem_of_mem_filter hs)

/-! ## Scoring the returned layers -/

theorem rawScores_drawableLayers :
    rawScores parameters history policy.recencyHorizon.toNat
        (drawableLayers parameters history catalog policy) =
      drawableScores parameters history catalog policy := by
  rw [drawableLayers_eq]
  exact rawScores_filter _

/-- Of the returned layers, all are counted. -/
theorem countedLayers_drawableLayers :
    countedLayers parameters (drawableLayers parameters history catalog policy) =
      drawableLayers parameters history catalog policy := by
  rw [← map_layer_rawScores, rawScores_drawableLayers, drawableLayers_eq]

/-- Their scores are finished among themselves. -/
theorem rescore_eq :
    scoreCatalog parameters history (drawableLayers parameters history catalog policy) policy =
      ((drawableScores parameters history catalog policy).filter fun s =>
        isDrawable (policy.finish (drawableLayers parameters history catalog policy) s)).map
          (policy.finish (drawableLayers parameters history catalog policy)) := by
  rw [scoreCatalog_eq, drawableScores, countedLayers_drawableLayers, rawScores_drawableLayers]

/-- A part of a list has as many entries of a kind as the list if no such entry is left out. -/
theorem countP_filter_eq_iff {β : Type} {l : List β} {keep p : β → Bool} :
    (l.filter keep).countP p = l.countP p ↔ ∀ a ∈ l, p a = true → keep a = true := by
  rw [List.countP_eq_length_filter, List.countP_eq_length_filter, List.filter_comm,
    List.length_filter_eq_length_iff]
  simp only [List.mem_filter, and_imp]

/-- The counts for a layer are the same among what is counted and among what can be drawn if nothing
dilutes its score. -/
theorem not_diluted_iff {l : Layer} :
    ¬ Diluted parameters history catalog policy l ↔
      sameMapCount (drawableLayers parameters history catalog policy) l =
          sameMapCount (countedLayers parameters catalog) l ∧
        sameEnvironmentCount (drawableLayers parameters history catalog policy) l =
          sameEnvironmentCount (countedLayers parameters catalog) l := by
  unfold sameMapCount sameEnvironmentCount
  rw [drawableLayers_eq_filter, countP_filter_eq_iff, countP_filter_eq_iff]
  simp only [Diluted, not_exists, not_and, not_or, Bool.and_eq_true, beq_iff_eq, decide_eq_true_eq]
  constructor
  · intro free
    refine ⟨fun o counted ⟨mode, map⟩ => ?_, fun o counted ⟨mode, environment⟩ => ?_⟩
    · by_contra undrawable
      exact (free o counted undrawable mode).1 map
    · by_contra undrawable
      exact (free o counted undrawable mode).2 environment
  · rintro ⟨maps, environments⟩ o counted undrawable mode
    exact ⟨fun map => undrawable (maps o counted ⟨mode, map⟩),
      fun environment => undrawable (environments o counted ⟨mode, environment⟩)⟩

theorem finish_eq_of_not_diluted {s : Scored α}
    (free : policy.normalizeLayerCounts = true → ¬ Diluted parameters history catalog policy s.layer) :
    policy.finish (drawableLayers parameters history catalog policy) s =
      policy.finish (countedLayers parameters catalog) s := by
  unfold Policy.finish
  split
  · rename_i normalize
    obtain ⟨maps, environments⟩ := not_diluted_iff.1 (free normalize)
    unfold normalized
    rw [maps, environments]
  · rfl

/-- **Where nothing dilutes the scores, scoring what was returned gives the same scores.** -/
theorem rescore_eq_self
    (free : policy.normalizeLayerCounts = true →
      ∀ l ∈ drawableLayers parameters history catalog policy,
        ¬ Diluted parameters history catalog policy l) :
    scoreCatalog parameters history (drawableLayers parameters history catalog policy) policy =
      scoreCatalog parameters history catalog policy := by
  have same : ∀ s ∈ drawableScores parameters history catalog policy,
      policy.finish (drawableLayers parameters history catalog policy) s =
        policy.finish (countedLayers parameters catalog) s := fun s hs =>
    finish_eq_of_not_diluted fun normalize => free normalize _ (layer_mem_of_mem_drawableScores hs)
  have drawable : ∀ s ∈ drawableScores parameters history catalog policy,
      isDrawable (policy.finish (drawableLayers parameters history catalog policy) s) = true := by
    intro s hs
    rw [same s hs]
    exact (List.mem_filter.1 hs).2
  rw [rescore_eq, List.filter_eq_self.2 drawable, scoreCatalog_eq]
  exact List.map_congr_left same

end

/-! ## Exact fractions -/

section

variable {parameters : Parameters Rat} {history : History} {catalog : List Layer} {policy : Policy}
  {s : Scored Rat}

theorem score_normalized (ls : List Layer) (s : Scored Rat) :
    (normalized ls s).score =
      s.score / ((sameMapCount ls s.layer * sameEnvironmentCount ls s.layer : Nat) : Rat) := rfl

/-- A layer is counted for itself. -/
theorem counts_pos {ls : List Layer} {l : Layer} (h : l ∈ ls) :
    0 < sameMapCount ls l ∧ 0 < sameEnvironmentCount ls l :=
  ⟨List.countP_pos_iff.2 ⟨l, h, by simp⟩, List.countP_pos_iff.2 ⟨l, h, by simp⟩⟩

/-- A score stays positive when it is finished. -/
theorem isDrawable_finish_iff {ls : List Layer} (h : s.layer ∈ ls) :
    isDrawable (policy.finish ls s) = true ↔ 0 < s.score := by
  rw [isDrawable_iff]
  unfold Policy.finish
  split
  · obtain ⟨maps, environments⟩ := counts_pos h
    rw [score_normalized]
    exact div_pos_iff_of_pos_right (Nat.cast_pos.2 (Nat.mul_pos maps environments))
  · rfl

theorem score_pos (h : s ∈ drawableScores parameters history catalog policy) : 0 < s.score := by
  obtain ⟨raw, drawable⟩ := List.mem_filter.1 h
  refine (isDrawable_finish_iff ?_).1 drawable
  rw [← map_layer_rawScores]
  exact List.mem_map_of_mem raw

/-- What can be drawn does not depend on whether scores are normalized. -/
theorem drawableScores_eq_scoreCatalog :
    drawableScores parameters history catalog policy =
      scoreCatalog parameters history catalog { policy with normalizeLayerCounts := false } := by
  unfold drawableScores scoreCatalog
  refine List.filter_congr fun s hs => ?_
  have counted : s.layer ∈ countedLayers parameters catalog := by
    rw [← map_layer_rawScores]
    exact List.mem_map_of_mem hs
  rw [Bool.eq_iff_iff, isDrawable_finish_iff counted, isDrawable_iff]

/-- The layers that are returned can be drawn in any case. -/
theorem rescore_eq_map :
    scoreCatalog parameters history (drawableLayers parameters history catalog policy) policy =
      (drawableScores parameters history catalog policy).map
        (policy.finish (drawableLayers parameters history catalog policy)) := by
  rw [rescore_eq, List.filter_eq_self.2 fun s hs => ?_]
  exact (isDrawable_finish_iff (layer_mem_of_mem_drawableScores hs)).2 (score_pos hs)

/-- A score is the same among what is counted and among what can be drawn if nothing dilutes it. -/
theorem normalized_eq_iff (h : s ∈ drawableScores parameters history catalog policy) :
    normalized (countedLayers parameters catalog) s =
        normalized (drawableLayers parameters history catalog policy) s ↔
      ¬ Diluted parameters history catalog policy s.layer := by
  have drawable := layer_mem_of_mem_drawableScores h
  have part : (drawableLayers parameters history catalog policy).Sublist
      (countedLayers parameters catalog) := by
    rw [drawableLayers_eq_filter]
    exact List.filter_sublist ..
  have positive : s.score ≠ 0 := ne_of_gt (score_pos h)
  obtain ⟨maps, _⟩ := counts_pos drawable
  obtain ⟨_, environments⟩ := counts_pos (part.mem drawable)
  -- The counts among what can be drawn are not greater, so equal products have equal factors.
  have fewerMaps : sameMapCount (drawableLayers parameters history catalog policy) s.layer ≤
      sameMapCount (countedLayers parameters catalog) s.layer := part.countP_le
  have fewerEnvironments :
      sameEnvironmentCount (drawableLayers parameters history catalog policy) s.layer ≤
        sameEnvironmentCount (countedLayers parameters catalog) s.layer := part.countP_le
  rw [not_diluted_iff,
    ← mul_eq_mul_iff_eq_and_eq_of_pos fewerMaps fewerEnvironments maps environments]
  constructor
  · intro same
    have scores := congrArg Scored.score same
    rw [score_normalized, score_normalized, div_eq_mul_inv, div_eq_mul_inv, mul_right_inj' positive,
      inv_inj, Nat.cast_inj] at scores
    exact scores.symm
  · intro same
    unfold normalized
    rw [same]

end

/-- **Layers that cannot be drawn count for those that can.** Where nothing dilutes the scores, scoring
exactly the returned layers gives the same scores, whatever they are computed in. With exact fractions,
the same layers are returned in any case, and the same scores once more. A normalized score is divided by
the counts among all layers with groups, and it is the one that it would be among the returned layers if
and only if no layer dilutes it. -/
theorem rescore (history : History) (catalog : List Layer) (policy : Policy) :
    (∀ {α : Type} [Scalar α] (parameters : Parameters α),
      (policy.normalizeLayerCounts = true → ∀ l ∈ drawableLayers parameters history catalog policy,
        ¬ Diluted parameters history catalog policy l) →
      scoreCatalog parameters history (drawableLayers parameters history catalog policy) policy =
        scoreCatalog parameters history catalog policy) ∧
    ∀ parameters : Parameters Rat,
      let plain := scoreCatalog parameters history catalog { policy with normalizeLayerCounts := false }
      let scored := scoreCatalog parameters history catalog policy
      let returned := drawableLayers parameters history catalog policy
      let again := scoreCatalog parameters history returned policy
      again.map Scored.layer = returned ∧
      scoreCatalog parameters history (again.map Scored.layer) policy = again ∧
      (policy.normalizeLayerCounts = true →
        scored = plain.map (normalized (countedLayers parameters catalog)) ∧
        again = plain.map (normalized returned) ∧
        ∀ s ∈ plain, normalized (countedLayers parameters catalog) s = normalized returned s ↔
          ¬ Diluted parameters history catalog policy s.layer) ∧
      (again = scored ↔ (policy.normalizeLayerCounts = true → ∀ l ∈ returned,
        ¬ Diluted parameters history catalog policy l)) := by
  refine ⟨fun parameters => rescore_eq_self, ?_⟩
  intro parameters plain scored returned again
  have plain_eq : drawableScores parameters history catalog policy = plain :=
    drawableScores_eq_scoreCatalog
  have scored_eq : scored = plain.map (policy.finish (countedLayers parameters catalog)) := by
    rw [← plain_eq]
    exact scoreCatalog_eq
  have again_eq : again = plain.map (policy.finish returned) := by
    rw [← plain_eq]
    exact rescore_eq_map
  have returned_eq : returned = plain.map Scored.layer := by
    rw [← plain_eq]
    exact drawableLayers_eq
  have layers : again.map Scored.layer = returned := by
    rw [again_eq, returned_eq, List.map_map]
    exact List.map_congr_left fun s _ => Policy.layer_finish ..
  have pointwise : ∀ s ∈ plain, normalized (countedLayers parameters catalog) s = normalized returned s ↔
      ¬ Diluted parameters history catalog policy s.layer := fun s hs =>
    normalized_eq_iff (plain_eq ▸ hs)
  refine ⟨layers, by rw [layers], fun normalize => ?normalized, ?again⟩
  case normalized =>
    have finish (ls : List Layer) : (policy.finish ls : Scored Rat → Scored Rat) = normalized ls := by
      funext s
      exact if_pos normalize
    rw [finish] at scored_eq again_eq
    exact ⟨scored_eq, again_eq, pointwise⟩
  case again =>
    refine ⟨fun same normalize l hl => ?_, fun free => rescore_eq_self free⟩
    rw [returned_eq] at hl
    obtain ⟨s, hs, rfl⟩ := List.mem_map.1 hl
    refine (pointwise s hs).1 ?_
    rw [again_eq, scored_eq, List.map_inj_left] at same
    simpa [Policy.finish, normalize] using (same s hs).symm

/-! ### A layer of an environment without weight -/

/-- The map of `foyWarfare` by night. -/
def foyNight : Layer := ⟨"foy_warfare_night", "foy", .night, .warfare, none⟩

/-- Night layers have no weight. -/
def dayParameters : Parameters Rat :=
  ⟨[⟨"Mid", 80, 1 / 2, ["foy"]⟩], [⟨"Day", 100, 1 / 10, [.day]⟩, ⟨"Night", 0, 1 / 10, [.night]⟩]⟩

/-- The night layer of a map cannot be drawn, but halves the score of its day layer. -/
theorem rescore_diluted :
    let policy : Policy := { normalizeLayerCounts := true }
    scoreCatalog dayParameters .empty [foyWarfare, foyNight] policy = [⟨foyWarfare, 4000⟩] ∧
      scoreCatalog dayParameters .empty [foyWarfare] policy = [⟨foyWarfare, 8000⟩] := by
  decide +kernel

end MapBallot
