import MapBallot.Proofs.Ascending
import MapBallot.Proofs.Score.Catalog
import MapBallot.Proofs.Selection.Lookup
import MapBallot.Proofs.Text.ByteOrder

/-!
# `MapBallot.Proofs.Score.Direct` — scores as they are defined

A layer's score depends on its groups and on the history alone. Scoring a catalog takes more steps than
that: the catalog is sorted and repeated ids are dropped, the decay of a map is computed when its first
layer is met and kept for the others, and the decay of an environment group is looked up in a table that
was made before. Here are these steps, and that they give each layer the score of its definition.

## Contents

* `sortedById`, `sortedById_eq` — sorting by ids and dropping repetitions;
* `mem_distinctById_iff` — the first layer of each id is left;
* `rawScoresBy?`, `scoreSteps?` — scoring step by step, with the decay of maps kept;
* `DirectScore` — the definition of a score;
* `mem_scoreCatalog_iff` — exactly the layers with such a score are listed;
* `scoreCatalog_eq_direct` — all of it for a catalog that may repeat ids.
-/

namespace MapBallot

open Weighting (Document Group Parameters)

variable {α : Type}

/-! ## The first layer of each id -/

theorem byKey_id : Ascending.ByKey fun a b : Layer => decide (a.id < b.id) where
  asymm a b h := by
    simp only [decide_eq_true_eq, decide_eq_false_iff_not] at h ⊢
    exact String.lt_asymm h
  between a b c h := by
    simp only [decide_eq_true_eq] at h ⊢
    by_cases hab : a.id < b.id
    · exact .inl hab
    · exact .inr (lt_of_le_of_lt (not_lt.1 hab) h)

theorem sameKey_id (a b : Layer) :
    Ascending.sameKey (fun a b : Layer => decide (a.id < b.id)) a b = (b.id == a.id) := by
  rw [Bool.eq_iff_iff, Ascending.sameKey_eq_true_iff, beq_iff_eq]
  simp only [decide_eq_false_iff_not, not_lt]
  exact ⟨fun ⟨hba, hab⟩ => le_antisymm hba hab, fun same => ⟨same.le, same.ge⟩⟩

/-- **Of several layers with one id the first is left.** -/
theorem mem_distinctById_iff {catalog : List Layer} {l : Layer} :
    l ∈ distinctById catalog ↔ catalog.find? (·.id == l.id) = some l := by
  have first : l ∈ distinctById catalog ↔ _ := Ascending.mem_arrange_iff byKey_id
  rwa [funext (sameKey_id l)] at first

/-- The catalog sorted by ids, each layer dropped that has the id of the one before it. -/
def sortedById (catalog : List Layer) : List Layer :=
  (catalog.mergeSort fun a b => decide (a.id ≤ b.id)).destutter fun a b => a.id ≠ b.id

theorem sortedById_eq (catalog : List Layer) : sortedById catalog = distinctById catalog := by
  have notAfter : ∀ a b : Layer, decide (a.id ≤ b.id) = !decide (b.id < a.id) := by
    intro a b
    rw [← decide_not]
    exact decide_eq_decide.2 not_lt.symm
  have apart : ∀ a b : Layer, a.id ≠ b.id ↔
      Ascending.sameKey (fun a b : Layer => decide (a.id < b.id)) a b = false := by
    intro a b
    rw [sameKey_id, beq_eq_false_iff_ne]
    exact ne_comm
  exact Ascending.destutter_mergeSort byKey_id notAfter apart catalog

/-! ## Scoring step by step -/

/-- The value that is kept for a key, and the table afterwards. A value that is missing is added. -/
def Table.recall {κ ν : Type} [DecidableEq κ] (table : Table κ ν) (key : κ) (value : ν) :
    ν × Table κ ν :=
  match table key with
  | some kept => (kept, table)
  | none => (value, table.enter key value)

section

variable [Scalar α] (parameters : Parameters α) (history : History) (horizon : Nat)

/-- The layers that have groups, with their scores. The share of an environment group is looked up, and
the share of a map is kept for the layers behind. -/
def rawScoresBy? (shares : Table String α) : Table String α → List Layer → Option (List (Scored α))
  | _, [] => some []
  | kept, l :: ls =>
    match parameters.mapGroupOf? l.map, parameters.environmentGroupOf? l.environment with
    | some mapGroup, some environmentGroup => do
      let (factor, kept) := kept.recall l.map
        (decayFactor mapGroup.repeatDecay (history.recencyOfMap l.map) horizon)
      let share ← shares environmentGroup.name
      let behind ← rawScoresBy? shares kept ls
      some (⟨l, Scalar.ofNat mapGroup.weight * factor * Scalar.ofNat environmentGroup.weight * share⟩
        :: behind)
    | _, _ => rawScoresBy? shares kept ls

/-- The layers that can be drawn, scored step by step. -/
def scoreSteps? (catalog : List Layer) (policy : Policy) : Option (List (Scored α)) := do
  let horizon := policy.recencyHorizon.toNat
  let shares := environmentShares parameters history horizon
  let raw ← rawScoresBy? parameters history horizon shares (fun _ => none) (sortedById catalog)
  let maps := Table.tally (raw.map fun s => (s.layer.gameMode, s.layer.map))
  let environments := Table.tally (raw.map fun s => (s.layer.gameMode, s.layer.environment))
  let scored ← if policy.normalizeLayerCounts then raw.mapM (normalizedBy? maps environments)
    else some raw
  some (scored.filter isDrawable)

/-- What is kept for a map is the share of its weight that the map's group keeps. -/
def SharesKept (kept : Table String α) : Prop :=
  ∀ map share, kept map = some share → ∀ g, parameters.mapGroupOf? map = some g →
    share = decayFactor g.repeatDecay (history.recencyOfMap map) horizon

end

section

variable [Scalar α] {parameters : Parameters α} {history : History} {horizon : Nat}

theorem SharesKept.none : SharesKept parameters history horizon fun _ => none := by
  intro map share h
  cases h

/-- The share that is recalled is the one that would be computed, and what is kept stays right. -/
theorem SharesKept.recall {kept : Table String α} (h : SharesKept parameters history horizon kept)
    {map : String} {g : Group String α} (found : parameters.mapGroupOf? map = some g) :
    ∃ table, kept.recall map (decayFactor g.repeatDecay (history.recencyOfMap map) horizon) =
        (decayFactor g.repeatDecay (history.recencyOfMap map) horizon, table) ∧
      SharesKept parameters history horizon table := by
  unfold Table.recall
  cases known : kept map with
  | some share =>
    refine ⟨kept, ?_, h⟩
    rw [h map share known g found]
  | none =>
    refine ⟨_, rfl, ?_⟩
    intro other share stored g' found'
    by_cases same : other = map
    · subst same
      rw [Table.enter_self, Option.some_inj] at stored
      obtain rfl : g = g' := Option.some_inj.1 (found.symm.trans found')
      exact stored.symm
    · rw [Table.enter_of_ne _ _ same] at stored
      exact h other share stored g' found'

/-- Keeping the shares of maps changes no score. -/
theorem rawScoresBy?_eq {d : Document α} (valid : Parameters.ofDocument d = .ok parameters)
    {kept : Table String α} (h : SharesKept parameters history horizon kept) (ls : List Layer) :
    rawScoresBy? parameters history horizon (environmentShares parameters history horizon) kept ls =
      some (ls.filterMap (rawScore? parameters history horizon)) := by
  induction ls generalizing kept with
  | nil => rfl
  | cons l ls ih =>
    rw [rawScoresBy?, List.filterMap_cons, rawScore?]
    cases foundMap : parameters.mapGroupOf? l.map with
    | none => exact ih h
    | some mapGroup =>
      cases found : parameters.environmentGroupOf? l.environment with
      | none => exact ih h
      | some environmentGroup =>
        have listed : environmentGroup ∈ parameters.environmentGroups := List.mem_of_find?_eq_some found
        obtain ⟨table, recalled, stillKept⟩ := h.recall foundMap
        simp only [recalled, environmentShares_eq valid history horizon listed, ih stillKept]
        rfl

/-- **Scoring step by step finds everything**, for validated parameters, and scores as `scoreCatalog`
does. -/
theorem scoreSteps?_eq {d : Document α} (valid : Parameters.ofDocument d = .ok parameters)
    (history : History) (catalog : List Layer) (policy : Policy) :
    scoreSteps? parameters history catalog policy =
      some (scoreCatalog parameters history catalog policy) := by
  unfold scoreSteps? scoreCatalog
  dsimp only
  rw [sortedById_eq, rawScoresBy?_eq valid .none]
  change (do
    let raw ← some (rawScores parameters history policy.recencyHorizon.toNat catalog)
    _) = _
  simp only [Option.bind_eq_bind, Option.bind_some]
  by_cases normalize : policy.normalizeLayerCounts = true
  · rw [if_pos normalize, if_pos normalize, mapM_eq_some fun s hs => normalizedBy?_eq hs]
    rfl
  · rw [if_neg normalize, if_neg normalize]

/-! ## The definition of a score -/

/-- A layer is the first of its id in the catalog, it has both groups, and its score is their weights,
each multiplied by the share that is left of it after recent play: of the very map on the one side, of
the whole environment group on the other. -/
structure DirectScore (parameters : Parameters α) (history : History) (horizon : Nat)
    (catalog : List Layer) (s : Scored α) : Prop where
  first : catalog.find? (·.id == s.layer.id) = some s.layer
  score : ∃ mapGroup environmentGroup,
    parameters.mapGroupOf? s.layer.map = some mapGroup ∧
    parameters.environmentGroupOf? s.layer.environment = some environmentGroup ∧
    s.score = Scalar.ofNat mapGroup.weight
      * decayFactor mapGroup.repeatDecay (history.recencyWhere fun p => p.map == s.layer.map) horizon
      * Scalar.ofNat environmentGroup.weight
      * decayFactor environmentGroup.repeatDecay
          (history.recencyWhere fun p => environmentGroup.members.contains p.environment) horizon
  positive : Scalar.lt (Scalar.ofNat 0) s.score = true
  finite : Scalar.isFinite s.score = true

theorem mem_rawScores_iff {catalog : List Layer} {s : Scored α} :
    s ∈ rawScores parameters history horizon catalog ↔
      s.layer ∈ distinctById catalog ∧ rawScore? parameters history horizon s.layer = some s := by
  unfold rawScores
  rw [List.mem_filterMap]
  constructor
  · rintro ⟨l, hl, hs⟩
    obtain ⟨_, _, _, _, rfl⟩ := rawScore?_eq_some.1 hs
    exact ⟨hl, hs⟩
  · rintro ⟨hl, hs⟩
    exact ⟨s.layer, hl, hs⟩

/-- Without normalization exactly the layers with a score by definition are listed. -/
theorem mem_scoreCatalog_iff {catalog : List Layer} {policy : Policy}
    (plain : policy.normalizeLayerCounts = false) {s : Scored α} :
    s ∈ scoreCatalog parameters history catalog policy ↔
      DirectScore parameters history policy.recencyHorizon.toNat catalog s := by
  obtain ⟨l, score⟩ := s
  unfold scoreCatalog isDrawable
  dsimp only
  rw [if_neg (by simp [plain]), List.mem_filter, mem_rawScores_iff, mem_distinctById_iff,
    rawScore?_eq_some, Bool.and_eq_true]
  constructor
  · rintro ⟨⟨first, mapGroup, environmentGroup, foundMap, found, scored⟩, positive, finite⟩
    exact ⟨first, ⟨mapGroup, environmentGroup, foundMap, found, congrArg Scored.score scored⟩,
      positive, finite⟩
  · rintro ⟨first, ⟨mapGroup, environmentGroup, foundMap, found, scored⟩, positive, finite⟩
    refine ⟨⟨first, mapGroup, environmentGroup, foundMap, found, ?_⟩, positive, finite⟩
    rw [Scored.mk.injEq]
    exact ⟨rfl, scored⟩

/-- **Scoring a catalog gives each layer the score of its definition.** For validated parameters, and
without normalization, the layers are listed in strictly ascending order of the bytes of their ids;
exactly the first layers of their ids with a score by definition are listed; and sorting, dropping
repetitions, keeping the shares of maps and looking up those of environment groups gives the same list
and never misses an entry. -/
theorem scoreCatalog_eq_direct {d : Document α} (valid : Parameters.ofDocument d = .ok parameters)
    (history : History) (catalog : List Layer) {policy : Policy}
    (plain : policy.normalizeLayerCounts = false) :
    (scoreCatalog parameters history catalog policy).Pairwise
      (fun a b => Text.bytes a.layer.id < Text.bytes b.layer.id) ∧
    (∀ s, s ∈ scoreCatalog parameters history catalog policy ↔
      DirectScore parameters history policy.recencyHorizon.toNat catalog s) ∧
    scoreSteps? parameters history catalog policy =
      some (scoreCatalog parameters history catalog policy) := by
  refine ⟨?_, fun s => mem_scoreCatalog_iff plain, scoreSteps?_eq valid history catalog policy⟩
  exact (scoreCatalog_ascending parameters history catalog policy).imp Text.bytes_lt_iff.2

end

/-- Maps of one group and environments of two. -/
def twilightDocument : Document Rat :=
  ⟨[("Top", ⟨80, 1 / 2, ["foy", "kursk"]⟩)],
    [("Day", ⟨100, 1 / 10, [.day]⟩), ("Twilight", ⟨60, 1 / 4, [.dusk, .night]⟩)]⟩

/-- Kursk was played at dusk and then Foy by day. Of the two layers with id `b` the first counts, on
Foy, with half of the map's weight left and nine tenths of the environment's. The layer on Kursk by
night lost a part to the round at dusk, which is of its environment group. -/
theorem scoreCatalog_eq_direct_repeated :
    ∃ parameters, Parameters.ofDocument twilightDocument = .ok parameters ∧
      scoreSteps? parameters
        (.ofPlays [⟨"kursk", .dusk, 3, none, .epoch⟩, ⟨"foy", .day, 4, none, .epoch⟩])
        [⟨"b", "foy", .day, .warfare, none⟩, ⟨"a", "kursk", .night, .warfare, none⟩,
          ⟨"b", "kursk", .night, .control, none⟩, ⟨"c", "utah", .day, .warfare, none⟩] .default =
        some [⟨⟨"a", "kursk", .night, .warfare, none⟩, 80 * (7 / 12) * 60 * (19 / 24)⟩,
          ⟨⟨"b", "foy", .day, .warfare, none⟩, 80 * (1 / 2) * 100 * (9 / 10)⟩] := by
  have valid : Parameters.ofDocument twilightDocument =
      .ok ⟨[⟨"Top", 80, 1 / 2, ["foy", "kursk"]⟩],
        [⟨"Day", 100, 1 / 10, [.day]⟩, ⟨"Twilight", 60, 1 / 4, [.dusk, .night]⟩]⟩ := by decide +kernel
  refine ⟨_, valid, ?_⟩
  rw [(scoreCatalog_eq_direct valid _ _ rfl).2.2]
  decide +kernel

end MapBallot
