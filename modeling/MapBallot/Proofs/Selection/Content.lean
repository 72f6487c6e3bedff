import Mathlib.Data.List.Sort
import MapBallot.Proofs.Score.Catalog
import MapBallot.Selection.Basic

/-!
# `MapBallot.Proofs.Selection.Content` — only the content of a catalog counts

A remote tool may list its layers in any order, and some of them several times. As long as an id stands
for one layer, neither the order nor the repetitions have a say in what is scored and chosen: a catalog
is only as much as the set of its layers. Layers that cannot be scored have no say either, and the modes
of a catalog do not depend on each other. All of this holds whatever the scores are computed in.

## Contents

* `Consistent`, `mem_distinctById`, `distinctById_congr`, `distinctById_filter` — catalogs in which an id
  stands for one layer;
* `scoreCatalog_congr`, `scoreCatalog_filter_groups`, `scoreCatalog_filter_mode` — what is scored;
* `find?_id_eq_some_iff`, `currentLayer?_congr`, `selectPlan_congr`, `select_congr` — what is chosen;
* `choice_content` — all of these.
-/

namespace MapBallot

open Weighting (Parameters)

/-! ## Catalogs in which an id stands for one layer -/

/-- Layers with one id are equal. -/
def Consistent (catalog : List Layer) : Prop :=
  ∀ l ∈ catalog, ∀ l' ∈ catalog, l.id = l'.id → l = l'

instance (catalog : List Layer) : Decidable (Consistent catalog) :=
  inferInstanceAs (Decidable (∀ l ∈ catalog, ∀ l' ∈ catalog, l.id = l'.id → l = l'))

variable {catalog catalog' : List Layer}

theorem consistent_of_nodup (distinct : (catalog.map Layer.id).Nodup) : Consistent catalog :=
  fun _ hl _ hl' => List.inj_on_of_nodup_map distinct hl hl'

theorem Consistent.filter (h : Consistent catalog) (keep : Layer → Bool) :
    Consistent (catalog.filter keep) :=
  fun l hl l' hl' => h l (List.mem_of_mem_filter hl) l' (List.mem_of_mem_filter hl')

theorem Consistent.congr (h : Consistent catalog) (same : ∀ l, l ∈ catalog ↔ l ∈ catalog') :
    Consistent catalog' :=
  fun l hl l' hl' => h l ((same l).2 hl) l' ((same l').2 hl')

/-- Every layer is there when each id is taken once. -/
theorem mem_distinctById (h : Consistent catalog) {l : Layer} :
    l ∈ distinctById catalog ↔ l ∈ catalog := by
  constructor
  · exact Ascending.mem_of_mem_arrange
  · intro listed
    obtain ⟨x, hx, rfl | ⟨notBefore, notAfter⟩⟩ :
        ∃ x ∈ distinctById catalog,
          x = l ∨ decide (l.id < x.id) = false ∧ decide (x.id < l.id) = false :=
      Ascending.exists_mem_arrange listed
    · exact hx
    · -- What is there in place of the layer has its id, so it is the layer.
      have id : x.id = l.id :=
        String.le_antisymm (String.not_lt.1 (of_decide_eq_false notBefore))
          (String.not_lt.1 (of_decide_eq_false notAfter))
      exact h x (Ascending.mem_of_mem_arrange hx) l listed id ▸ hx

/-- Ascending lists with the same layers are equal. -/
theorem eq_of_ascending {ls ls' : List Layer} (h : ls.Pairwise fun a b => a.id < b.id)
    (h' : ls'.Pairwise fun a b => a.id < b.id) (same : ∀ l, l ∈ ls ↔ l ∈ ls') : ls = ls' := by
  have : Std.Irrefl fun a b : Layer => a.id < b.id := ⟨fun _ => String.lt_irrefl _⟩
  have : Std.Antisymm fun a b : Layer => a.id < b.id :=
    ⟨fun _ _ hab hba => absurd (String.lt_trans hab hba) (String.lt_irrefl _)⟩
  exact h.eq_of_mem_iff h' same

theorem distinctById_congr (h : Consistent catalog) (same : ∀ l, l ∈ catalog ↔ l ∈ catalog') :
    distinctById catalog = distinctById catalog' := by
  refine eq_of_ascending (distinctById_ascending _) (distinctById_ascending _) fun l => ?_
  rw [mem_distinctById h, mem_distinctById (h.congr same), same]

theorem distinctById_filter (h : Consistent catalog) (keep : Layer → Bool) :
    distinctById (catalog.filter keep) = (distinctById catalog).filter keep := by
  refine eq_of_ascending (distinctById_ascending _) ((distinctById_ascending _).filter _) fun l => ?_
  rw [mem_distinctById (h.filter keep), List.mem_filter, List.mem_filter, mem_distinctById h]

/-! ## What is scored -/

section

variable {α : Type} [Scalar α] {parameters : Parameters α} {history : History} {policy : Policy}

/-- A catalog is scored by its layers with groups. -/
theorem scoreCatalog_eq_of_rawScores
    (h : rawScores parameters history policy.recencyHorizon.toNat catalog =
      rawScores parameters history policy.recencyHorizon.toNat catalog') :
    scoreCatalog parameters history catalog policy = scoreCatalog parameters history catalog' policy := by
  unfold scoreCatalog
  rw [h]

/-- **What is scored depends on the content of a catalog only.** -/
theorem scoreCatalog_congr (h : Consistent catalog) (same : ∀ l, l ∈ catalog ↔ l ∈ catalog') :
    scoreCatalog parameters history catalog policy = scoreCatalog parameters history catalog' policy := by
  refine scoreCatalog_eq_of_rawScores ?_
  unfold rawScores
  rw [distinctById_congr h same]

/-- A layer has a map group and an environment group. -/
def HasGroups (parameters : Parameters α) (l : Layer) : Prop :=
  (parameters.mapGroupOf? l.map).isSome ∧ (parameters.environmentGroupOf? l.environment).isSome

theorem rawScore?_eq_none {horizon : Nat} {l : Layer} (h : ¬ HasGroups parameters l) :
    rawScore? parameters history horizon l = none := by
  rw [Option.eq_none_iff_forall_ne_some]
  intro s hs
  obtain ⟨_, _, map, environment, _⟩ := rawScore?_eq_some.1 hs
  exact h ⟨by rw [map]; rfl, by rw [environment]; rfl⟩

/-- **Layers without groups have no say in the scores of the others.** -/
theorem scoreCatalog_filter_groups (h : Consistent catalog) {keep : Layer → Bool}
    (kept : ∀ l ∈ catalog, HasGroups parameters l → keep l = true) :
    scoreCatalog parameters history (catalog.filter keep) policy =
      scoreCatalog parameters history catalog policy := by
  refine scoreCatalog_eq_of_rawScores ?_
  unfold rawScores
  rw [distinctById_filter h, List.filterMap_filter]
  refine List.filterMap_congr fun l hl => ?_
  -- A layer is kept, or it has no score anyway.
  by_cases groups : HasGroups parameters l
  · rw [if_pos (kept l ((mem_distinctById h).1 hl) groups)]
  · rw [rawScore?_eq_none groups, ite_self]

theorem rawScores_filter_mode (h : Consistent catalog) (horizon : Nat) (mode : GameMode) :
    rawScores parameters history horizon (catalog.filter fun l => l.gameMode == mode) =
      Selection.poolOf (rawScores parameters history horizon catalog) mode := by
  unfold rawScores Selection.poolOf
  rw [distinctById_filter h, List.filterMap_filter, List.filter_filterMap]
  refine List.filterMap_congr fun l _ => ?_
  cases scored : rawScore? parameters history horizon l with
  | none => simp
  | some s =>
    obtain ⟨_, _, _, _, rfl⟩ := rawScore?_eq_some.1 scored
    rw [Option.filter_some]

/-- Only layers of its own mode are counted for a layer. -/
theorem normalized_filter_mode (ls : List Layer) {s : Scored α} {mode : GameMode}
    (hs : s.layer.gameMode = mode) :
    normalized (ls.filter fun l => l.gameMode == mode) s = normalized ls s := by
  subst hs
  have maps : sameMapCount (ls.filter fun l => l.gameMode == s.layer.gameMode) s.layer =
      sameMapCount ls s.layer := by
    unfold sameMapCount
    rw [List.countP_filter]
    exact List.countP_congr fun l _ => by simp +contextual
  have environments :
      sameEnvironmentCount (ls.filter fun l => l.gameMode == s.layer.gameMode) s.layer =
        sameEnvironmentCount ls s.layer := by
    unfold sameEnvironmentCount
    rw [List.countP_filter]
    exact List.countP_congr fun l _ => by simp +contextual
  unfold normalized
  rw [maps, environments]

/-- **The modes of a catalog are scored independently of each other.** -/
theorem scoreCatalog_filter_mode (h : Consistent catalog) (mode : GameMode) :
    scoreCatalog parameters history (catalog.filter fun l => l.gameMode == mode) policy =
      Selection.poolOf (scoreCatalog parameters history catalog policy) mode := by
  unfold scoreCatalog
  rw [rawScores_filter_mode h]
  generalize rawScores parameters history policy.recencyHorizon.toNat catalog = raw
  have layers : (Selection.poolOf raw mode).map Scored.layer =
      (raw.map Scored.layer).filter fun l => l.gameMode == mode := by
    rw [List.filter_map]
    rfl
  dsimp only
  by_cases normalize : policy.normalizeLayerCounts = true
  · -- Normalizing touches neither the modes nor, as the counts go by mode, what is counted.
    have pool : Selection.poolOf (raw.map (normalized (raw.map Scored.layer))) mode =
        (Selection.poolOf raw mode).map (normalized (raw.map Scored.layer)) := List.filter_map ..
    have counted : (Selection.poolOf raw mode).map (normalized ((Selection.poolOf raw mode).map
        Scored.layer)) = (Selection.poolOf raw mode).map (normalized (raw.map Scored.layer)) := by
      rw [layers]
      refine List.map_congr_left fun s hs => ?_
      exact normalized_filter_mode _ (eq_of_beq (List.mem_filter.1 hs).2)
    rw [if_pos normalize, if_pos normalize, counted, ← pool]
    exact List.filter_comm ..
  · rw [if_neg normalize, if_neg normalize]
    exact List.filter_comm ..

/-! ## What is chosen -/

theorem isEmpty_congr (same : ∀ l, l ∈ catalog ↔ l ∈ catalog') :
    catalog.isEmpty = catalog'.isEmpty := by
  rw [Bool.eq_iff_iff, List.isEmpty_iff, List.isEmpty_iff, List.eq_nil_iff_forall_not_mem,
    List.eq_nil_iff_forall_not_mem]
  exact forall_congr' fun l => not_congr (same l)

/-- The layer with an id is found. -/
theorem find?_id_eq_some_iff (h : Consistent catalog) {id : String} {l : Layer} :
    catalog.find? (·.id == id) = some l ↔ l ∈ catalog ∧ id = l.id := by
  constructor
  · intro found
    have same : l.id = id := by simpa using List.find?_some found
    exact ⟨List.mem_of_find?_eq_some found, same.symm⟩
  · rintro ⟨listed, rfl⟩
    cases found : catalog.find? (·.id == l.id) with
    | none => exact absurd (by simp) (List.find?_eq_none.1 found l listed)
    | some other =>
      -- Another layer may come first, but it has the same id.
      have same : other.id = l.id := by simpa using List.find?_some found
      rw [h other (List.mem_of_find?_eq_some found) l listed same]

theorem find?_id_congr (h : Consistent catalog) (same : ∀ l, l ∈ catalog ↔ l ∈ catalog')
    (id : String) : catalog.find? (·.id == id) = catalog'.find? (·.id == id) :=
  Option.ext fun l => by rw [find?_id_eq_some_iff h, find?_id_eq_some_iff (h.congr same), same]

theorem currentLayer?_congr (h : Consistent catalog) (same : ∀ l, l ∈ catalog ↔ l ∈ catalog') :
    Exclusions.currentLayer? history catalog = Exclusions.currentLayer? history catalog' := by
  unfold Exclusions.currentLayer?
  simp only [find?_id_congr h same]

theorem resolve_congr (h : Consistent catalog) (same : ∀ l, l ∈ catalog ↔ l ∈ catalog')
    (rules : ExclusionRules) :
    Exclusions.resolve rules history catalog = Exclusions.resolve rules history catalog' := by
  unfold Exclusions.resolve
  rw [currentLayer?_congr h same]

/-- **What is chosen for a plan depends on the content of a catalog only**, and so do the random words
that are used. -/
theorem selectPlan_congr (h : Consistent catalog) (same : ∀ l, l ∈ catalog ↔ l ∈ catalog')
    (plan : Plan) (stream : RandomStream) :
    selectPlan parameters history catalog plan policy stream =
      selectPlan parameters history catalog' plan policy stream := by
  have resolved : Exclusions.resolve policy.exclusions history catalog =
      Exclusions.resolve policy.exclusions history catalog' := resolve_congr h same _
  have scored : scoreCatalog parameters history (eligibleLayers history catalog policy) policy =
      scoreCatalog parameters history (eligibleLayers history catalog' policy) policy := by
    unfold eligibleLayers
    rw [resolved]
    exact scoreCatalog_congr (h.filter _) fun l => by rw [List.mem_filter, List.mem_filter, same]
  unfold selectPlan restrictedPlan
  rw [isEmpty_congr same, resolved, scored]

theorem select_congr (h : Consistent catalog) (same : ∀ l, l ∈ catalog ↔ l ∈ catalog') (count : Nat)
    (stream : RandomStream) :
    select parameters history catalog count policy stream =
      select parameters history catalog' count policy stream := by
  unfold select
  rw [isEmpty_congr same, scoreCatalog_congr h same]

end

/-- **Only the content of a catalog counts.** Catalogs with the same layers, in any order and with any
repetitions, lead to the same choice or refusal and leave the same random words, for a plan and for a
number of layers. Taking layers without groups out of a catalog changes no score, and scoring one mode
of it gives the scores that the mode has among all. -/
theorem choice_content {α : Type} [Scalar α] {catalog : List Layer} (consistent : Consistent catalog)
    (parameters : Parameters α) (history : History) (policy : Policy) :
    (∀ catalog', Consistent catalog' → (∀ l, l ∈ catalog ↔ l ∈ catalog') →
      (∀ plan stream, selectPlan parameters history catalog plan policy stream =
        selectPlan parameters history catalog' plan policy stream) ∧
      (∀ count stream, select parameters history catalog count policy stream =
        select parameters history catalog' count policy stream)) ∧
    (∀ keep : Layer → Bool, (∀ l ∈ catalog, HasGroups parameters l → keep l = true) →
      scoreCatalog parameters history (catalog.filter keep) policy =
        scoreCatalog parameters history catalog policy) ∧
    (∀ mode, scoreCatalog parameters history (catalog.filter fun l => l.gameMode == mode) policy =
      (scoreCatalog parameters history catalog policy).filter fun s => s.layer.gameMode == mode) :=
  ⟨fun _ _ same => ⟨fun plan stream => selectPlan_congr consistent same plan stream,
      fun count stream => select_congr consistent same count stream⟩,
    fun _ kept => scoreCatalog_filter_groups consistent kept,
    fun mode => scoreCatalog_filter_mode consistent mode⟩

/-- Two layers of a map. -/
def foyWarfare : Layer := ⟨"foy_warfare", "foy", .day, .warfare, none⟩

def foyControl : Layer := ⟨"foy_skirmish", "foy", .day, .control, none⟩

/-- Listing one of them twice and the other one between makes no difference to a choice of both. -/
theorem choice_content_repeated :
    let parameters : Parameters Rat :=
      ⟨[⟨"Top", 80, 1 / 2, ["foy"]⟩], [⟨"Day", 100, 1 / 10, [.day]⟩]⟩
    let plan := (Plan.empty.set .control 1).set .warfare 1
    let policy : Policy := { normalizeLayerCounts := true }
    Consistent [foyWarfare, foyControl, foyWarfare] ∧
      selectPlan parameters .empty [foyWarfare, foyControl, foyWarfare] plan policy ⟨fun _ => 0, 0⟩ =
        selectPlan parameters .empty [foyControl, foyWarfare] plan policy ⟨fun _ => 0, 0⟩ ∧
      (selectPlan parameters .empty [foyControl, foyWarfare] plan policy ⟨fun _ => 0, 0⟩).1 =
        .ok ⟨[⟨foyWarfare, 8000⟩, ⟨foyControl, 8000⟩]⟩ ∧
      scoreCatalog parameters .empty ([foyWarfare, foyControl, foyWarfare].filter fun l =>
        l.gameMode == .control) policy = [⟨foyControl, 8000⟩] := by
  intro parameters plan policy
  have consistent : Consistent [foyWarfare, foyControl, foyWarfare] := by decide +kernel
  obtain ⟨content, _, modes⟩ := choice_content consistent parameters .empty policy
  have same : ∀ l, l ∈ [foyWarfare, foyControl, foyWarfare] ↔ l ∈ [foyControl, foyWarfare] := by
    intro l
    simp only [List.mem_cons, List.not_mem_nil, or_false]
    exact ⟨fun h => h.elim .inr id, fun h => h.elim (.inr ∘ .inl) .inl⟩
  refine ⟨consistent, (content _ (by decide +kernel) same).1 plan _, by decide +kernel, ?_⟩
  rw [modes]
  decide +kernel

end MapBallot
