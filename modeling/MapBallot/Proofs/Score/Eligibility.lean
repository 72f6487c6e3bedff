import Mathlib.Tactic.Ring
import MapBallot.Proofs.Score.Decay
import MapBallot.Proofs.Score.Direct
import MapBallot.Proofs.Score.Rescoring

/-!
# `MapBallot.Proofs.Score.Eligibility` — what can be drawn, and with which score

In exact fractions the score of a layer is the product of two weights and of what is left of them, divided
by a number that the history has no say in. So recent play only lowers a score, by no more than both decays
allow, and a score is zero exactly if a weight is, or if nothing is left of one.

## Contents

* `Policy.divisor`, `InGroups`, `finishedScore`, `mem_scoreCatalog_exact_iff` — scores in one expression;
* `groupScore_mono`, `le_groupScore`, `groupScore_empty_le` — the less recent, the higher, within bounds;
* `exists_mem_scoreCatalog_of_le` — what can be drawn stays so, and its score does not fall;
* `Eligible`, `groupScore_pos_iff`, `mem_drawableLayers_iff` — exactly which layers can be drawn;
* `decay_and_eligibility` — all of it for validated parameters.
-/

namespace MapBallot

open Weighting (Document Group Parameters)

/-! ## Scores in one expression -/

namespace Policy

variable {policy : Policy} {ls : List Layer} {l : Layer}

/-- By how much a score is divided. -/
def divisor (policy : Policy) (ls : List Layer) (l : Layer) : Nat :=
  if policy.normalizeLayerCounts then sameMapCount ls l * sameEnvironmentCount ls l else 1

theorem divisor_pos (h : l ∈ ls) : 0 < policy.divisor ls l := by
  unfold divisor
  split
  · exact Nat.mul_pos (counts_pos h).1 (counts_pos h).2
  · exact Nat.one_pos

theorem finish_eq (ls : List Layer) (s : Scored Rat) :
    policy.finish ls s = ⟨s.layer, s.score / (policy.divisor ls s.layer : Rat)⟩ := by
  unfold finish divisor
  split
  · rfl
  · rw [Nat.cast_one, div_one]

end Policy

/-- The groups of a layer. -/
structure InGroups {α : Type} (parameters : Parameters α) (l : Layer) (mapGroup : Group String α)
    (environmentGroup : Group Environment α) : Prop where
  map : parameters.mapGroupOf? l.map = some mapGroup
  environment : parameters.environmentGroupOf? l.environment = some environmentGroup

/-- The groups of a layer have weight, and neither of them is ruled out by the newest round. -/
structure Eligible (history : History) (horizon : Nat) (l : Layer) (mapGroup : Group String Rat)
    (environmentGroup : Group Environment Rat) : Prop where
  mapWeight : 0 < mapGroup.weight
  environmentWeight : 0 < environmentGroup.weight
  map : ¬ RuledOut mapGroup.repeatDecay (history.recencyOfMap l.map) horizon
  environment :
    ¬ RuledOut environmentGroup.repeatDecay (history.recencyOfEnvironments environmentGroup) horizon

/-- The score of a layer in these groups, divided as the policy asks. -/
def finishedScore (parameters : Parameters Rat) (history : History) (catalog : List Layer)
    (policy : Policy) (l : Layer) (mapGroup : Group String Rat)
    (environmentGroup : Group Environment Rat) : Rat :=
  groupScore history policy.recencyHorizon.toNat l.map mapGroup environmentGroup /
    policy.divisor (countedLayers parameters catalog) l

section

variable {parameters : Parameters Rat} {history history' : History} {catalog : List Layer}
  {policy : Policy} {l : Layer} {mapGroup : Group String Rat}
  {environmentGroup : Group Environment Rat} {horizon : Nat} {map : String}

theorem mem_countedLayers (listed : l ∈ distinctById catalog)
    (groups : InGroups parameters l mapGroup environmentGroup) :
    l ∈ countedLayers parameters catalog := by
  refine List.mem_filter.2 ⟨listed, ?_⟩
  rw [groups.map, groups.environment]
  rfl

/-- Exactly the layers with groups and a positive score are listed, each id once. -/
theorem mem_scoreCatalog_exact_iff {s : Scored Rat} :
    s ∈ scoreCatalog parameters history catalog policy ↔
      s.layer ∈ distinctById catalog ∧ 0 < s.score ∧ ∃ mapGroup environmentGroup,
        InGroups parameters s.layer mapGroup environmentGroup ∧
        s.score = finishedScore parameters history catalog policy s.layer mapGroup environmentGroup := by
  obtain ⟨l, score⟩ := s
  rw [scoreCatalog_eq, List.mem_map]
  constructor
  · rintro ⟨raw, h, same⟩
    rw [← same]
    obtain ⟨listed, drawable⟩ := List.mem_filter.1 h
    obtain ⟨counted, found⟩ := mem_rawScores_iff.1 listed
    obtain ⟨mapGroup, environmentGroup, hm, he, scored⟩ := rawScore?_eq_some.1 found
    rw [isDrawable_iff] at drawable
    rw [Policy.finish_eq] at drawable ⊢
    refine ⟨counted, drawable, mapGroup, environmentGroup, ⟨hm, he⟩, ?_⟩
    rw [finishedScore, congrArg Scored.score scored]
  · rintro ⟨counted, positive, mapGroup, environmentGroup, ⟨hm, he⟩, scored⟩
    have same : policy.finish (countedLayers parameters catalog)
        ⟨l, groupScore history policy.recencyHorizon.toNat l.map mapGroup environmentGroup⟩ =
        ⟨l, score⟩ := by
      rw [Policy.finish_eq]
      exact congrArg (Scored.mk l) scored.symm
    refine ⟨⟨l, groupScore history policy.recencyHorizon.toNat l.map mapGroup environmentGroup⟩,
      List.mem_filter.2 ⟨mem_rawScores_iff.2 ⟨counted, ?_⟩, ?_⟩, same⟩
    · exact rawScore?_eq_some.2 ⟨mapGroup, environmentGroup, hm, he, rfl⟩
    · rw [same]
      exact isDrawable_iff.2 positive

/-! ## Bounds -/

/-- The decay of a group in its range is between zero and one. -/
theorem repeatDecay_bounds {Member : Type} {g : Group Member Rat} (h : g.InRange) :
    0 ≤ g.repeatDecay ∧ g.repeatDecay ≤ 1 := by
  have nonneg := h.nonneg
  have atMostOne := h.atMostOne
  simp only [Scalar.le, Scalar.ofNat, decide_eq_true_eq, Nat.cast_zero, Nat.cast_one] at nonneg atMostOne
  exact ⟨nonneg, atMostOne⟩

theorem decayFactor_nonneg {Member : Type} {g : Group Member Rat} (h : g.InRange) (r : Recency)
    (horizon : Nat) : 0 ≤ decayFactor g.repeatDecay r horizon :=
  (sub_nonneg.2 (repeatDecay_bounds h).2).trans (one_sub_le_decayFactor (repeatDecay_bounds h).1)

theorem groupScore_eq :
    groupScore history horizon map mapGroup environmentGroup =
      mapGroup.weight * decayFactor mapGroup.repeatDecay (history.recencyOfMap map) horizon *
        environmentGroup.weight * decayFactor environmentGroup.repeatDecay
          (history.recencyOfEnvironments environmentGroup) horizon := rfl

theorem groupScore_empty :
    groupScore .empty horizon map mapGroup environmentGroup =
      (mapGroup.weight : Rat) * environmentGroup.weight := by
  rw [groupScore_eq, History.recencyOfMap, History.recencyOfEnvironments, History.recencyWhere_empty,
    History.recencyWhere_empty, decayFactor_never, decayFactor_never, mul_one, mul_one]

section

variable (ofMap : mapGroup.InRange) (ofEnvironment : environmentGroup.InRange)

include ofMap ofEnvironment

/-- **What was played longer ago has a higher score.** -/
theorem groupScore_mono (maps : history.recencyOfMap map ≤ history'.recencyOfMap map)
    (environments : history.recencyOfEnvironments environmentGroup ≤
      history'.recencyOfEnvironments environmentGroup) :
    groupScore history horizon map mapGroup environmentGroup ≤
      groupScore history' horizon map mapGroup environmentGroup := by
  have left := decayFactor_nonneg ofMap (history'.recencyOfMap map) horizon
  have left' := decayFactor_nonneg ofEnvironment
    (history.recencyOfEnvironments environmentGroup) horizon
  rw [groupScore_eq, groupScore_eq]
  gcongr
  · exact decayFactor_mono (repeatDecay_bounds ofMap).1 maps
  · exact decayFactor_mono (repeatDecay_bounds ofEnvironment).1 environments

/-- Both decays leave at least their rests. -/
theorem le_groupScore :
    (1 - mapGroup.repeatDecay) * (1 - environmentGroup.repeatDecay) *
        groupScore .empty horizon map mapGroup environmentGroup ≤
      groupScore history horizon map mapGroup environmentGroup := by
  obtain ⟨nonneg, atMostOne⟩ := repeatDecay_bounds ofMap
  obtain ⟨nonneg', atMostOne'⟩ := repeatDecay_bounds ofEnvironment
  have rest := sub_nonneg.2 atMostOne
  have rest' := sub_nonneg.2 atMostOne'
  have left := decayFactor_nonneg ofMap (history.recencyOfMap map) horizon
  rw [groupScore_empty, groupScore_eq]
  calc (1 - mapGroup.repeatDecay) * (1 - environmentGroup.repeatDecay) *
        (mapGroup.weight * environmentGroup.weight)
      = mapGroup.weight * (1 - mapGroup.repeatDecay) * environmentGroup.weight *
        (1 - environmentGroup.repeatDecay) := by ring
    _ ≤ _ := by
      gcongr
      · exact one_sub_le_decayFactor nonneg
      · exact one_sub_le_decayFactor nonneg'

theorem groupScore_empty_le :
    groupScore .empty horizon map mapGroup environmentGroup ≤ 10000 := by
  have weights : mapGroup.weight * environmentGroup.weight ≤ 100 * 100 :=
    Nat.mul_le_mul ofMap.weight ofEnvironment.weight
  rw [groupScore_empty]
  exact_mod_cast weights

/-- **A score is positive** if both weights are, and something is left of both. -/
theorem groupScore_pos_iff :
    0 < groupScore history horizon l.map mapGroup environmentGroup ↔
      Eligible history horizon l mapGroup environmentGroup := by
  obtain ⟨nonneg, atMostOne⟩ := repeatDecay_bounds ofMap
  obtain ⟨nonneg', atMostOne'⟩ := repeatDecay_bounds ofEnvironment
  have kept := decayFactor_nonneg ofMap (history.recencyOfMap l.map) horizon
  have kept' := decayFactor_nonneg ofEnvironment (history.recencyOfEnvironments environmentGroup) horizon
  rw [groupScore_eq]
  constructor
  · intro positive
    have factors := positive.ne'
    rw [mul_ne_zero_iff, mul_ne_zero_iff, mul_ne_zero_iff, Nat.cast_ne_zero, Nat.cast_ne_zero] at factors
    obtain ⟨⟨⟨weight, left⟩, weight'⟩, left'⟩ := factors
    exact ⟨Nat.pos_of_ne_zero weight, Nat.pos_of_ne_zero weight',
      (decayFactor_pos_iff nonneg atMostOne).1 (kept.lt_of_ne' left),
      (decayFactor_pos_iff nonneg' atMostOne').1 (kept'.lt_of_ne' left')⟩
  · intro eligible
    have weight := eligible.mapWeight
    have weight' := eligible.environmentWeight
    have left := (decayFactor_pos_iff nonneg atMostOne).2 eligible.map
    have left' := (decayFactor_pos_iff nonneg' atMostOne').2 eligible.environment
    positivity

end

/-! ## What can be drawn -/

section

variable {document : Document Rat} (valid : Parameters.ofDocument document = .ok parameters)

include valid

theorem InGroups.inRange (groups : InGroups parameters l mapGroup environmentGroup) :
    mapGroup.InRange ∧ environmentGroup.InRange := by
  obtain ⟨maps, environments⟩ := Parameters.ofDocument_inRange valid
  exact ⟨maps mapGroup (List.mem_of_find?_eq_some groups.map),
    environments environmentGroup (List.mem_of_find?_eq_some groups.environment)⟩

/-- **What can be drawn stays so while it is not played**, and its score does not fall. The number by which
it is divided does not change. -/
theorem exists_mem_scoreCatalog_of_le {s : Scored Rat}
    (maps : history.recencyOfMap s.layer.map ≤ history'.recencyOfMap s.layer.map)
    (environments : ∀ g, parameters.environmentGroupOf? s.layer.environment = some g →
      history.recencyOfEnvironments g ≤ history'.recencyOfEnvironments g)
    (h : s ∈ scoreCatalog parameters history catalog policy) :
    ∃ s' ∈ scoreCatalog parameters history' catalog policy,
      s'.layer = s.layer ∧ s.score ≤ s'.score := by
  obtain ⟨listed, positive, mapGroup, environmentGroup, groups, scored⟩ := mem_scoreCatalog_exact_iff.1 h
  obtain ⟨ofMap, ofEnvironment⟩ := groups.inRange valid
  have higher : s.score ≤
      finishedScore parameters history' catalog policy s.layer mapGroup environmentGroup := by
    rw [scored]
    exact div_le_div_of_nonneg_right
      (groupScore_mono ofMap ofEnvironment maps (environments _ groups.environment)) (Nat.cast_nonneg _)
  exact ⟨⟨s.layer, finishedScore parameters history' catalog policy s.layer mapGroup environmentGroup⟩,
    mem_scoreCatalog_exact_iff.2 ⟨listed, positive.trans_le higher, mapGroup, environmentGroup, groups, rfl⟩,
    rfl, higher⟩

/-- A history without rounds gives the highest score, of which both decays leave at least their rests. -/
theorem exists_fresh_of_mem_scoreCatalog {s : Scored Rat}
    (h : s ∈ scoreCatalog parameters history catalog policy) :
    ∃ mapGroup environmentGroup, InGroups parameters s.layer mapGroup environmentGroup ∧
      ∃ fresh ∈ scoreCatalog parameters .empty catalog policy, fresh.layer = s.layer ∧
        (1 - mapGroup.repeatDecay) * (1 - environmentGroup.repeatDecay) * fresh.score ≤ s.score ∧
        s.score ≤ fresh.score ∧ fresh.score ≤ 10000 := by
  obtain ⟨fresh, hfresh, same, le⟩ : ∃ fresh ∈ scoreCatalog parameters .empty catalog policy,
      fresh.layer = s.layer ∧ s.score ≤ fresh.score :=
    exists_mem_scoreCatalog_of_le valid (Recency.le_never _) (fun _ _ => Recency.le_never _) h
  obtain ⟨listed, _, mapGroup, environmentGroup, groups, scored⟩ := mem_scoreCatalog_exact_iff.1 h
  obtain ⟨_, _, mapGroup', environmentGroup', groups', scored'⟩ := mem_scoreCatalog_exact_iff.1 hfresh
  rw [same] at groups' scored'
  obtain rfl := Option.some_inj.1 (groups.map.symm.trans groups'.map)
  obtain rfl := Option.some_inj.1 (groups.environment.symm.trans groups'.environment)
  obtain ⟨ofMap, ofEnvironment⟩ := groups.inRange valid
  refine ⟨mapGroup, environmentGroup, groups, fresh, hfresh, same, ?_, le, ?_⟩
  · rw [scored, scored', finishedScore, finishedScore, ← mul_div_assoc]
    exact div_le_div_of_nonneg_right (le_groupScore ofMap ofEnvironment) (Nat.cast_nonneg _)
  · -- Dividing by a number of layers does not raise a score.
    have divisor : (1 : Rat) ≤ policy.divisor (countedLayers parameters catalog) s.layer := by
      exact_mod_cast policy.divisor_pos (mem_countedLayers listed groups)
    have nonneg : 0 ≤ groupScore .empty policy.recencyHorizon.toNat s.layer.map mapGroup
        environmentGroup := by
      rw [groupScore_empty]
      positivity
    rw [scored', finishedScore]
    exact (div_le_self nonneg divisor).trans (groupScore_empty_le ofMap ofEnvironment)

theorem finishedScore_pos_iff (listed : l ∈ distinctById catalog)
    (groups : InGroups parameters l mapGroup environmentGroup) :
    0 < finishedScore parameters history catalog policy l mapGroup environmentGroup ↔
      Eligible history policy.recencyHorizon.toNat l mapGroup environmentGroup := by
  obtain ⟨ofMap, ofEnvironment⟩ := groups.inRange valid
  have divisor := policy.divisor_pos (mem_countedLayers listed groups)
  unfold finishedScore
  rw [div_pos_iff_of_pos_right (Nat.cast_pos.2 divisor)]
  exact groupScore_pos_iff ofMap ofEnvironment

/-- **Exactly the eligible layers can be drawn**, each the first of its id. -/
theorem mem_drawableLayers_iff :
    l ∈ drawableLayers parameters history catalog policy ↔
      catalog.find? (·.id == l.id) = some l ∧ ∃ mapGroup environmentGroup,
        InGroups parameters l mapGroup environmentGroup ∧
        Eligible history policy.recencyHorizon.toNat l mapGroup environmentGroup := by
  rw [← mem_distinctById_iff]
  constructor
  · intro h
    obtain ⟨s, hs, rfl⟩ := List.mem_map.1 h
    obtain ⟨listed, positive, mapGroup, environmentGroup, groups, scored⟩ :=
      mem_scoreCatalog_exact_iff.1 hs
    rw [scored, finishedScore_pos_iff valid listed groups] at positive
    exact ⟨listed, mapGroup, environmentGroup, groups, positive⟩
  · rintro ⟨listed, mapGroup, environmentGroup, groups, eligible⟩
    have positive := (finishedScore_pos_iff valid listed groups).2 eligible
    exact List.mem_map.2 ⟨⟨l, _⟩, mem_scoreCatalog_exact_iff.2 ⟨listed, positive, mapGroup,
      environmentGroup, groups, rfl⟩, rfl⟩

end

end

/-- What rules a layer out was played in the newest round. -/
theorem newest_of_ruledOut {d : Rat} {history : History} {p : Play → Bool} {horizon : UInt32}
    (h : RuledOut d (history.recencyWhere p) horizon.toNat) :
    d = 1 ∧ 0 < horizon ∧ ∃ newest, history.latest? = some newest ∧ p newest = true :=
  ⟨h.1, UInt32.lt_iff_toNat_lt.2 h.2.2, History.recencyWhere_eq_rounds_zero_iff.1 h.2.1⟩

/-- **Decay and eligibility**, in exact fractions. What is left of a weight follows the decay's curve. For
validated parameters a score is at most that of a history without rounds, which is at most 10000, and at
least what both decays leave of it. A layer can be drawn exactly if it is the first of its id and both of its
groups have weight, unless the decay of one of them is full and the map, or an environment of the group, was
played in the newest round. So this is the only case in which recent play rules out a layer. -/
theorem decay_and_eligibility {document : Document Rat} {parameters : Parameters Rat}
    (valid : Parameters.ofDocument document = .ok parameters) (history : History)
    (catalog : List Layer) (policy : Policy) :
    (∀ d : Rat, 0 ≤ d → d ≤ 1 → ∀ horizon, DecayLaw d horizon) ∧
    (∀ s ∈ scoreCatalog parameters history catalog policy, ∃ mapGroup environmentGroup,
      InGroups parameters s.layer mapGroup environmentGroup ∧
      ∃ fresh ∈ scoreCatalog parameters .empty catalog policy, fresh.layer = s.layer ∧
        (1 - mapGroup.repeatDecay) * (1 - environmentGroup.repeatDecay) * fresh.score ≤ s.score ∧
        s.score ≤ fresh.score ∧ fresh.score ≤ 10000) ∧
    (∀ l, l ∈ drawableLayers parameters history catalog policy ↔
      catalog.find? (·.id == l.id) = some l ∧ ∃ mapGroup environmentGroup,
        InGroups parameters l mapGroup environmentGroup ∧
        Eligible history policy.recencyHorizon.toNat l mapGroup environmentGroup) ∧
    (∀ l ∈ drawableLayers parameters .empty catalog policy,
      l ∉ drawableLayers parameters history catalog policy →
      0 < policy.recencyHorizon ∧ ∃ newest mapGroup environmentGroup, history.latest? = some newest ∧
        InGroups parameters l mapGroup environmentGroup ∧
        (mapGroup.repeatDecay = 1 ∧ newest.map = l.map ∨
          environmentGroup.repeatDecay = 1 ∧ newest.environment ∈ environmentGroup.members)) := by
  refine ⟨fun d nonneg _ => decayLaw nonneg, fun s => exists_fresh_of_mem_scoreCatalog valid,
    fun l => mem_drawableLayers_iff valid, ?ruledOut⟩
  case ruledOut =>
    intro l fresh gone
    rw [mem_drawableLayers_iff valid] at fresh gone
    obtain ⟨first, mapGroup, environmentGroup, groups, eligible⟩ := fresh
    by_cases ofMap : RuledOut mapGroup.repeatDecay (history.recencyOfMap l.map) policy.recencyHorizon.toNat
    · obtain ⟨full, horizon, newest, last, played⟩ := newest_of_ruledOut ofMap
      exact ⟨horizon, newest, mapGroup, environmentGroup, last, groups, .inl ⟨full, by simpa using played⟩⟩
    by_cases ofEnvironment : RuledOut environmentGroup.repeatDecay
      (history.recencyOfEnvironments environmentGroup) policy.recencyHorizon.toNat
    · obtain ⟨full, horizon, newest, last, played⟩ := newest_of_ruledOut ofEnvironment
      exact ⟨horizon, newest, mapGroup, environmentGroup, last, groups, .inr ⟨full, by simpa using played⟩⟩
    -- Weights do not depend on the history.
    exact absurd ⟨first, mapGroup, environmentGroup, groups, eligible.mapWeight, eligible.environmentWeight,
      ofMap, ofEnvironment⟩ gone

/-- All of the weight of a map goes with its round. -/
def fullDocument : Document Rat :=
  ⟨[("Top", ⟨80, 1, ["foy", "kursk"]⟩)], [("Day", ⟨100, 1 / 10, [.day]⟩)]⟩

/-- The validated groups of this document. -/
def fullParameters : Parameters Rat :=
  ⟨[⟨"Top", 80, 1, ["foy", "kursk"]⟩], [⟨"Day", 100, 1 / 10, [.day]⟩]⟩

/-- A round on Foy by day, after one on Kursk. -/
def foyAfterKursk : History :=
  .ofPlays [⟨"kursk", .night, 3, none, .epoch⟩, ⟨"foy", .day, 9, none, .epoch⟩]

/-- A layer on Kursk by day. -/
def kurskWarfare : Layer := ⟨"kursk_warfare", "kursk", .day, .warfare, none⟩

/-- After a round on Foy its layer cannot be drawn, and the one on Kursk keeps nine tenths of its score. -/
theorem decay_and_eligibility_played :
    Parameters.ofDocument fullDocument = .ok fullParameters ∧ DecayLaw 1 6 ∧
      scoreCatalog fullParameters foyAfterKursk [foyWarfare, kurskWarfare] .default =
        [⟨kurskWarfare, 7200⟩] ∧
      (∃ fresh ∈ scoreCatalog fullParameters .empty [foyWarfare, kurskWarfare] .default,
        fresh.layer = kurskWarfare ∧ 7200 ≤ fresh.score) ∧
      kurskWarfare ∈ drawableLayers fullParameters foyAfterKursk [foyWarfare, kurskWarfare] .default ∧
      ∃ newest, foyAfterKursk.latest? = some newest ∧ newest.map = "foy" := by
  have valid : Parameters.ofDocument fullDocument = .ok fullParameters := by decide +kernel
  obtain ⟨curve, bounds, drawable, ruledOut⟩ :=
    decay_and_eligibility valid foyAfterKursk [foyWarfare, kurskWarfare] .default
  have scored : scoreCatalog fullParameters foyAfterKursk [foyWarfare, kurskWarfare] .default =
      [⟨kurskWarfare, 7200⟩] := by decide +kernel
  refine ⟨valid, curve 1 (by decide +kernel) le_rfl 6, scored, ?_, ?_, ?_⟩
  · obtain ⟨_, _, _, fresh, hfresh, same, _, le, _⟩ := bounds ⟨kurskWarfare, 7200⟩ (by simp [scored])
    exact ⟨fresh, hfresh, same, le⟩
  · exact (drawable kurskWarfare).2 ⟨by decide +kernel, _, _, ⟨rfl, rfl⟩,
      ⟨by decide, by decide, by decide +kernel, by decide +kernel⟩⟩
  · obtain ⟨_, newest, _, environmentGroup, last, groups, ofMap | ofEnvironment⟩ :=
      ruledOut foyWarfare (by decide +kernel) (by decide +kernel)
    · exact ⟨newest, last, ofMap.2⟩
    · obtain rfl := Option.some_inj.1 (groups.environment.symm.trans
        (rfl : _ = some (⟨"Day", 100, 1 / 10, [.day]⟩ : Group Environment Rat)))
      exact absurd ofEnvironment.1 (by decide +kernel)

end MapBallot
