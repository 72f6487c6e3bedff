import MapBallot.Proofs.Table
import MapBallot.Proofs.Weighting.Parameters
import MapBallot.Selection.Basic

/-!
# `MapBallot.Proofs.Selection.Lookup` — every look-up finds something

Scores can be computed from tables that are made once: the decay of each environment group by its name,
and the numbers of layers by mode and map and by mode and environment. Here are scoring and drawing with
such tables, and with a draw that takes a layer out of the pool by its position; each of them gives
nothing when a table has no entry or a pool no such position. Validated parameters see to it that this
does not happen, and that the tables give what `scoreCatalog` computes.

## Contents

* `scoreCatalog?`, `drawMany?`, `selectPlan?` — scoring and drawing by look-ups;
* `scoreCatalog?_eq`, `drawMany?_eq`, `selectPlan?_eq` — none of them fails.
-/

namespace MapBallot

open Weighting (Document Group Parameters)

variable {α : Type}

/-! ## Scoring by look-ups -/

section

variable [Scalar α] (parameters : Parameters α) (history : History) (horizon : Nat)

/-- The share of its weight that each environment group keeps, by its name. -/
def environmentShares : Table String α :=
  .ofEntries (parameters.environmentGroups.map fun g =>
    (g.name, decayFactor g.repeatDecay (history.recencyOfEnvironmentGroup parameters g.name) horizon))

/-- The score of a layer, if it has both groups. The share of its environment group is looked up. -/
def rawScoreBy? (shares : Table String α) (l : Layer) : Option (Option (Scored α)) :=
  match parameters.mapGroupOf? l.map, parameters.environmentGroupOf? l.environment with
  | some mapGroup, some environmentGroup => do
    let share ← shares environmentGroup.name
    some (some ⟨l, Scalar.ofNat mapGroup.weight
      * decayFactor mapGroup.repeatDecay (history.recencyOfMap l.map) horizon
      * Scalar.ofNat environmentGroup.weight * share⟩)
  | _, _ => some none

/-- A score divided by the numbers of layers, which are looked up. -/
def normalizedBy? (maps : Table (GameMode × String) Nat)
    (environments : Table (GameMode × Environment) Nat) (s : Scored α) : Option (Scored α) := do
  let m ← maps (s.layer.gameMode, s.layer.map)
  let e ← environments (s.layer.gameMode, s.layer.environment)
  some { s with score := s.score / Scalar.ofNat (m * e) }

/-- The layers that can be drawn, scored by look-ups. -/
def scoreCatalog? (catalog : List Layer) (policy : Policy) : Option (List (Scored α)) := do
  let horizon := policy.recencyHorizon.toNat
  let shares := environmentShares parameters history horizon
  let found ← (distinctById catalog).mapM (rawScoreBy? parameters history horizon shares)
  let raw := found.filterMap id
  let maps := Table.tally (raw.map fun s => (s.layer.gameMode, s.layer.map))
  let environments := Table.tally (raw.map fun s => (s.layer.gameMode, s.layer.environment))
  let scored ← if policy.normalizeLayerCounts then raw.mapM (normalizedBy? maps environments)
    else some raw
  some (scored.filter isDrawable)

end

section

variable [Scalar α] {parameters : Parameters α}

/-- The share of an environment group is found by its name. -/
theorem environmentShares_eq {d : Document α} (valid : Parameters.ofDocument d = .ok parameters)
    (history : History) (horizon : Nat) {g : Group Environment α}
    (h : g ∈ parameters.environmentGroups) :
    environmentShares parameters history horizon g.name =
      some (decayFactor g.repeatDecay (history.recencyOfEnvironments g) horizon) := by
  have distinct := (Parameters.ofDocument_names valid).2
  have recency : history.recencyOfEnvironmentGroup parameters g.name =
      history.recencyOfEnvironments g := by
    unfold History.recencyOfEnvironmentGroup Parameters.environmentGroup?
    rw [Weighting.groupNamed?_eq_some distinct h]
    rfl
  unfold environmentShares
  rw [← recency]
  refine Table.ofEntries_eq_some ?_ (List.mem_map.2 ⟨g, h, rfl⟩)
  rwa [List.map_map]

theorem rawScoreBy?_eq {d : Document α} (valid : Parameters.ofDocument d = .ok parameters)
    (history : History) (horizon : Nat) (l : Layer) :
    rawScoreBy? parameters history horizon (environmentShares parameters history horizon) l =
      some (rawScore? parameters history horizon l) := by
  unfold rawScoreBy? rawScore?
  cases parameters.mapGroupOf? l.map with
  | none => rfl
  | some mapGroup =>
    cases found : parameters.environmentGroupOf? l.environment with
    | none => rfl
    | some g =>
      have listed : g ∈ parameters.environmentGroups := List.mem_of_find?_eq_some found
      dsimp only
      rw [environmentShares_eq valid history horizon listed]
      rfl

/-- The numbers of layers that share the mode and the map, or the mode and the environment, of one of
them are found. -/
theorem normalizedBy?_eq {raw : List (Scored α)} {s : Scored α} (h : s ∈ raw) :
    normalizedBy? (.tally (raw.map fun s => (s.layer.gameMode, s.layer.map)))
        (.tally (raw.map fun s => (s.layer.gameMode, s.layer.environment))) s =
      some (normalized (raw.map Scored.layer) s) := by
  have maps : (raw.map fun s => (s.layer.gameMode, s.layer.map)).countP
      (· = (s.layer.gameMode, s.layer.map)) = sameMapCount (raw.map Scored.layer) s.layer := by
    rw [sameMapCount, List.countP_map, List.countP_map]
    exact List.countP_congr fun o _ => by simp
  have environments : (raw.map fun s => (s.layer.gameMode, s.layer.environment)).countP
      (· = (s.layer.gameMode, s.layer.environment)) =
        sameEnvironmentCount (raw.map Scored.layer) s.layer := by
    rw [sameEnvironmentCount, List.countP_map, List.countP_map]
    exact List.countP_congr fun o _ => by simp
  unfold normalizedBy?
  rw [Table.tally_eq_some (List.mem_map.2 ⟨s, h, rfl⟩),
    Table.tally_eq_some (List.mem_map.2 ⟨s, h, rfl⟩), maps, environments]
  rfl

end

theorem mapM_eq_some {β γ : Type} {f : β → Option γ} {g : β → γ} {bs : List β}
    (h : ∀ b ∈ bs, f b = some (g b)) : bs.mapM f = some (bs.map g) := by
  induction bs with
  | nil => rfl
  | cons b bs ih =>
    obtain ⟨hb, hbs⟩ := List.forall_mem_cons.1 h
    rw [List.mapM_cons, hb, ih hbs]
    rfl

/-- **Scoring by look-ups finds everything**, for validated parameters, and scores as `scoreCatalog`
does. -/
theorem scoreCatalog?_eq [Scalar α] {parameters : Parameters α} {d : Document α}
    (valid : Parameters.ofDocument d = .ok parameters) (history : History) (catalog : List Layer)
    (policy : Policy) : scoreCatalog? parameters history catalog policy =
      some (scoreCatalog parameters history catalog policy) := by
  have raw : ((distinctById catalog).map
      (rawScore? parameters history policy.recencyHorizon.toNat)).filterMap id =
        rawScores parameters history policy.recencyHorizon.toNat catalog := by
    rw [List.filterMap_map]
    rfl
  unfold scoreCatalog? scoreCatalog
  dsimp only
  rw [mapM_eq_some fun l _ => rawScoreBy?_eq valid history _ l]
  simp only [Option.bind_eq_bind, Option.bind_some, raw]
  by_cases normalize : policy.normalizeLayerCounts = true
  · rw [if_pos normalize, if_pos normalize, mapM_eq_some fun s hs => normalizedBy?_eq hs]
    rfl
  · rw [if_neg normalize, if_neg normalize]

/-! ## Drawing by positions -/

namespace Selection

section

variable [Scalar α]

/-- Draws `n` layers from a pool by their positions. -/
def drawMany? : Nat → List (Scored α) → RandomStream →
    Option (Except SamplingFault (List (Scored α)) × RandomStream)
  | 0, _, stream => some (.ok [], stream)
  | n + 1, pool, stream =>
    let weights := pool.map Scored.score
    match samplingFault? weights with
    | some fault => some (.error fault, stream)
    | none => do
      let (word, stream) := stream.next
      let index := drawIndex weights (Scalar.pick (total weights) word)
      let drawn ← pool[index]?
      match ← drawMany? n (pool.eraseIdx index) stream with
      | (.ok rest, stream) => some (.ok (drawn :: rest), stream)
      | (.error fault, stream) => some (.error fault, stream)

/-- Draws `count` layers, by their positions, from a pool that must have as many. -/
def drawFrom? (pool : List (Scored α)) (count : Nat) (mode : Option GameMode)
    (stream : RandomStream) : Option (Except SelectionError (List (Scored α)) × RandomStream) :=
  if pool.length < count then
    some (.error (.insufficientCandidates mode count pool.length), stream)
  else do
    match ← drawMany? count pool stream with
    | (.ok drawn, stream) => some (.ok drawn, stream)
    | (.error fault, stream) => some (.error (.sampling fault), stream)

/-- Draws the requested number of layers of each mode, by their positions. -/
def drawRequests? (scored : List (Scored α)) : List (GameMode × Nat) → RandomStream →
    Option (Except SelectionError (List (Scored α)) × RandomStream)
  | [], stream => some (.ok [], stream)
  | (mode, count) :: requests, stream => do
    match ← drawFrom? (poolOf scored mode) count (some mode) stream with
    | (.error e, stream) => some (.error e, stream)
    | (.ok drawn, stream) =>
      match ← drawRequests? scored requests stream with
      | (.error e, stream) => some (.error e, stream)
      | (.ok rest, stream) => some (.ok (drawn ++ rest), stream)

/-- **Every draw is from inside the pool.** -/
theorem drawMany?_eq (n : Nat) (pool : List (Scored α)) (stream : RandomStream) :
    drawMany? n pool stream = some (drawMany n pool stream) := by
  induction n generalizing pool stream with
  | zero => rfl
  | succ n ih =>
    rw [drawMany?, drawMany]
    cases sound : samplingFault? (pool.map Scored.score) with
    | some fault => rfl
    | none =>
      have nonempty : pool.map Scored.score ≠ [] := by
        intro h
        rw [h] at sound
        cases sound
      have inRange := drawIndex_lt nonempty
        (Scalar.pick (total (pool.map Scored.score)) stream.next.1)
      rw [List.length_map] at inRange
      simp only [List.getElem?_eq_getElem inRange, ih, Option.bind_eq_bind, Option.bind_some,
        Option.toList_some, List.singleton_append]
      generalize drawMany (α := α) n _ _ = drawn
      obtain ⟨_ | _, _⟩ := drawn <;> rfl

theorem drawFrom?_eq (pool : List (Scored α)) (count : Nat) (mode : Option GameMode)
    (stream : RandomStream) :
    drawFrom? pool count mode stream = some (drawFrom pool count mode stream) := by
  unfold drawFrom? drawFrom
  by_cases short : pool.length < count
  · rw [if_pos short, if_pos short]
  · rw [if_neg short, if_neg short, drawMany?_eq]
    generalize drawMany count pool stream = drawn
    obtain ⟨_ | _, _⟩ := drawn <;> rfl

theorem drawRequests?_eq (scored : List (Scored α)) (requests : List (GameMode × Nat))
    (stream : RandomStream) :
    drawRequests? scored requests stream = some (drawRequests scored requests stream) := by
  induction requests generalizing stream with
  | nil => rfl
  | cons request requests ih =>
    obtain ⟨mode, count⟩ := request
    unfold drawRequests? drawRequests
    rw [drawFrom?_eq]
    generalize drawFrom (poolOf scored mode) count (some mode) stream = drawn
    obtain ⟨_ | drawn, stream⟩ := drawn
    · rfl
    · simp only [ih, Option.bind_eq_bind, Option.bind_some]
      generalize drawRequests scored requests stream = others
      obtain ⟨_ | _, _⟩ := others <;> rfl

end

end Selection

/-- Draws each mode's share of a plan, by look-ups and positions. -/
def selectPlan? [Scalar α] (parameters : Parameters α) (history : History) (catalog : List Layer)
    (plan : Plan) (policy : Policy) (stream : RandomStream) :
    Option (Except SelectionError (Selection α) × RandomStream) :=
  if catalog.isEmpty then some (.error .emptyCatalog, stream)
  else if plan.isEmpty then some (.error .emptyPlan, stream)
  else
    let restricted := restrictedPlan history catalog plan policy
    if restricted.isEmpty then some (.error .emptyPlan, stream)
    else do
      let scored ← scoreCatalog? parameters history (eligibleLayers history catalog policy) policy
      let (drawn, stream) ← Selection.drawRequests? scored restricted.requests stream
      some (drawn.map Selection.mk, stream)

/-- **Choosing by look-ups and positions never misses**, for validated parameters, and chooses as
`selectPlan` does. -/
theorem selectPlan?_eq [Scalar α] {parameters : Parameters α} {d : Document α}
    (valid : Parameters.ofDocument d = .ok parameters) (history : History) (catalog : List Layer)
    (plan : Plan) (policy : Policy) (stream : RandomStream) :
    selectPlan? parameters history catalog plan policy stream =
      some (selectPlan parameters history catalog plan policy stream) := by
  unfold selectPlan? selectPlan
  by_cases noLayer : catalog.isEmpty = true
  · rw [if_pos noLayer, if_pos noLayer]
  by_cases noRequest : plan.isEmpty = true
  · rw [if_neg noLayer, if_neg noLayer, if_pos noRequest, if_pos noRequest]
  by_cases noneLeft : (restrictedPlan history catalog plan policy).isEmpty = true
  · rw [if_neg noLayer, if_neg noLayer, if_neg noRequest, if_neg noRequest, if_pos noneLeft,
      if_pos noneLeft]
  · rw [if_neg noLayer, if_neg noLayer, if_neg noRequest, if_neg noRequest, if_neg noneLeft,
      if_neg noneLeft, scoreCatalog?_eq valid]
    simp only [Option.bind_eq_bind, Option.bind_some, Selection.drawRequests?_eq]

end MapBallot
