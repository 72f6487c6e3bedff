import MapBallot.Proofs.Score.Catalog
import MapBallot.Proofs.Selection.Draw
import MapBallot.Proofs.Selection.Lookup

/-!
# `MapBallot.Proofs.Selection.Plan` — choosing for a plan, completely

Whether anything is chosen for a plan, and if not why, depends on the catalog, the plan and the layers
that can be drawn, not on the random words. If something is chosen, it is each mode's share, mode by
mode, and no layer twice. Scores are exact here.

## Contents

* `DrawnFrom`, `drawFrom_eq_ok` — the share of one mode;
* `shortMode?`, `drawRequests_short`, `drawRequests_eq_ok` — the shares of several modes;
* `planRefusal?`, `Shares` — when nothing is chosen, and what else;
* `selectPlan_complete` — nothing else happens.
-/

namespace MapBallot

open Weighting (Document Parameters)

namespace Selection

variable {α : Type}

/-! ## The share of one mode -/

/-- So many layers were drawn from a pool, and none twice. -/
def DrawnFrom (pool : List (Scored α)) (count : Nat) (drawn : List (Scored α)) : Prop :=
  drawn.length = count ∧ ∃ left, (drawn ++ left).Perm pool

theorem DrawnFrom.mem {pool drawn : List (Scored α)} {count : Nat} (h : DrawnFrom pool count drawn)
    {s : Scored α} (hs : s ∈ drawn) : s ∈ pool := by
  obtain ⟨_, left, hp⟩ := h
  exact hp.subset (List.mem_append_left left hs)

theorem DrawnFrom.nodup {pool drawn : List (Scored α)} {count : Nat}
    (h : DrawnFrom pool count drawn) (distinct : pool.Nodup) : drawn.Nodup := by
  obtain ⟨_, left, hp⟩ := h
  exact (hp.nodup_iff.2 distinct).of_append_left

/-- What words draw was drawn from the pool. -/
theorem drawnFrom_picks [Scalar α] {pool : List (Scored α)} {count : Nat} (h : count ≤ pool.length)
    (stream : RandomStream) : DrawnFrom pool count (picks pool (stream.words count)) := by
  refine ⟨?_, left pool (stream.words count), picks_append_left_perm pool _⟩
  rw [length_picks (by simpa using h), RandomStream.length_words]

theorem drawFrom_short [Scalar α] {pool : List (Scored α)} {count : Nat} (h : pool.length < count)
    (mode : Option GameMode) (stream : RandomStream) : drawFrom pool count mode stream =
      (.error (.insufficientCandidates mode count pool.length), stream) := if_pos h

/-- The share of a mode is drawn if there are enough layers with positive scores. -/
theorem drawFrom_eq_picks [Scalar α] [PositiveSums α] {pool : List (Scored α)} {count : Nat}
    (h : count ≤ pool.length) (positive : ∀ s ∈ pool, Scalar.lt (Scalar.ofNat 0) s.score = true)
    (mode : Option GameMode) (stream : RandomStream) :
    drawFrom pool count mode stream = (.ok (picks pool (stream.words count)), stream.skip count) := by
  rw [drawFrom, if_neg (Nat.not_lt.2 h), drawMany_eq_picks h positive]

/-- A share that was drawn is what the next words draw. -/
theorem eq_picks_of_drawFrom [Scalar α] {pool drawn : List (Scored α)} {count : Nat}
    {mode : Option GameMode} {stream rest : RandomStream}
    (h : drawFrom pool count mode stream = (.ok drawn, rest)) :
    count ≤ pool.length ∧ drawn = picks pool (stream.words count) ∧ rest = stream.skip count := by
  unfold drawFrom at h
  by_cases short : pool.length < count
  · rw [if_pos short] at h
    cases h
  rw [if_neg short] at h
  generalize hd : drawMany count pool stream = result at h
  obtain ⟨_ | _, _⟩ := result
  · cases h
  · cases h
    exact eq_picks_of_drawMany hd

theorem drawFrom_eq_ok {pool : List (Scored Rat)} {count : Nat} (h : count ≤ pool.length)
    (positive : ∀ s ∈ pool, 0 < s.score) (mode : Option GameMode) (stream : RandomStream) :
    ∃ drawn rest, drawFrom pool count mode stream = (.ok drawn, rest) ∧
      DrawnFrom pool count drawn :=
  ⟨_, _, drawFrom_eq_picks h (fun s hs => decide_eq_true (positive s hs)) mode stream,
    drawnFrom_picks h stream⟩

/-! ## The shares of several modes -/

/-- The requests of some modes. Nothing is drawn for a mode with the count zero. -/
def requestsOf (count : GameMode → Nat) (modes : List GameMode) : List (GameMode × Nat) :=
  (modes.map fun m => (m, count m)).filter fun (_, n) => n != 0

/-- The first of some modes of which there are too few layers. -/
def shortMode? (scored : List (Scored α)) (count : GameMode → Nat) (modes : List GameMode) :
    Option GameMode := modes.find? fun m => (poolOf scored m).length < count m

/-- Why nothing is drawn when there are too few layers of a mode. -/
def tooFew (scored : List (Scored α)) (count : GameMode → Nat) (mode : GameMode) : SelectionError :=
  .insufficientCandidates (some mode) (count mode) (poolOf scored mode).length

theorem mem_poolOf {scored : List (Scored α)} {mode : GameMode} {s : Scored α} :
    s ∈ poolOf scored mode ↔ s ∈ scored ∧ s.layer.gameMode = mode := by
  unfold poolOf
  rw [List.mem_filter, beq_iff_eq]

theorem requestsOf_cons_of_zero {count : GameMode → Nat} {m : GameMode} (h : count m = 0)
    (modes : List GameMode) : requestsOf count (m :: modes) = requestsOf count modes := by
  unfold requestsOf
  rw [List.map_cons, List.filter_cons_of_neg (by simpa using h)]

theorem requestsOf_cons_of_pos {count : GameMode → Nat} {m : GameMode} (h : count m ≠ 0)
    (modes : List GameMode) :
    requestsOf count (m :: modes) = (m, count m) :: requestsOf count modes := by
  unfold requestsOf
  rw [List.map_cons, List.filter_cons_of_pos (by simpa using h)]

theorem flatMap_update {β : Type} (block : GameMode → List β) {m : GameMode} {modes : List GameMode}
    (h : m ∉ modes) (drawn : List β) :
    (m :: modes).flatMap (Function.update block m drawn) = drawn ++ modes.flatMap block := by
  rw [List.flatMap_cons, Function.update_self]
  congr 1
  refine List.flatMap_congr fun m' hm' => Function.update_of_ne ?_ _ _
  rintro rfl
  exact h hm'

section

variable {scored : List (Scored Rat)} (positive : ∀ s ∈ scored, 0 < s.score)
  {count : GameMode → Nat} {modes : List GameMode}

include positive

/-- If there are too few layers of a mode, then the first such mode is named, whatever the random
words are. -/
theorem drawRequests_short {mode : GameMode} (h : shortMode? scored count modes = some mode)
    (stream : RandomStream) : ∃ rest,
      drawRequests scored (requestsOf count modes) stream =
        (.error (tooFew scored count mode), rest) := by
  induction modes generalizing stream with
  | nil => cases h
  | cons m modes ih =>
    unfold shortMode? at h
    by_cases none : count m = 0
    · rw [List.find?_cons_of_neg (by simp [none])] at h
      rw [requestsOf_cons_of_zero none]
      exact ih h stream
    rw [requestsOf_cons_of_pos none, drawRequests]
    by_cases short : (poolOf scored m).length < count m
    · rw [List.find?_cons_of_pos (by simpa using short)] at h
      obtain rfl := Option.some.inj h
      rw [drawFrom_short short]
      exact ⟨stream, rfl⟩
    · rw [List.find?_cons_of_neg (by simpa using short)] at h
      obtain ⟨drawn, rest, hd, _⟩ := drawFrom_eq_ok (Nat.not_lt.1 short)
        (fun s hs => positive s (mem_poolOf.1 hs).1) (some m) stream
      obtain ⟨rest, hr⟩ := ih h rest
      rw [hd]
      dsimp only
      rw [hr]
      exact ⟨rest, rfl⟩

/-- If there are enough layers of every mode, then each mode's share is drawn. -/
theorem drawRequests_eq_ok (distinct : modes.Nodup) (h : shortMode? scored count modes = none)
    (stream : RandomStream) : ∃ block rest,
      drawRequests scored (requestsOf count modes) stream = (.ok (modes.flatMap block), rest) ∧
      ∀ m ∈ modes, DrawnFrom (poolOf scored m) (count m) (block m) := by
  induction modes generalizing stream with
  | nil => exact ⟨fun _ => [], stream, rfl, by simp⟩
  | cons m modes ih =>
    obtain ⟨fresh, distinct⟩ := List.nodup_cons.1 distinct
    rw [shortMode?, List.find?_cons] at h
    by_cases short : (poolOf scored m).length < count m
    · rw [decide_eq_true short] at h
      cases h
    rw [decide_eq_false short] at h
    -- The share of the first mode; without a request, it is empty.
    obtain ⟨drawn, between, hd, share⟩ : ∃ drawn between,
        (∀ others rest, drawRequests scored (requestsOf count modes) between = (.ok others, rest) →
          drawRequests scored (requestsOf count (m :: modes)) stream = (.ok (drawn ++ others), rest)) ∧
        DrawnFrom (poolOf scored m) (count m) drawn := by
      by_cases none : count m = 0
      · refine ⟨[], stream, ?_, none.symm, poolOf scored m, .refl _⟩
        intro others rest ho
        rw [requestsOf_cons_of_zero none, ho, List.nil_append]
      · obtain ⟨drawn, between, hd, share⟩ := drawFrom_eq_ok (Nat.not_lt.1 short)
          (fun s hs => positive s (mem_poolOf.1 hs).1) (some m) stream
        refine ⟨drawn, between, ?_, share⟩
        intro others rest ho
        rw [requestsOf_cons_of_pos none, drawRequests, hd]
        dsimp only
        rw [ho]
    obtain ⟨block, rest, ho, shares⟩ := ih distinct h between
    refine ⟨Function.update block m drawn, rest, ?_, ?_⟩
    · rw [flatMap_update block fresh]
      exact hd _ _ ho
    · intro m' hm'
      by_cases same : m' = m
      · subst same
        rwa [Function.update_self]
      · rw [Function.update_of_ne same]
        exact shares m' ((List.mem_cons.1 hm').resolve_left same)

end

end Selection

/-! ## Choosing for a plan -/

section

variable {α : Type}

/-- Why nothing is chosen, if nothing is, from a catalog for a plan, of which the exclusion rules leave
`restricted`, when the layers in `scored` can be drawn. -/
def planRefusal? (catalog : List Layer) (plan restricted : Plan) (scored : List (Scored α)) :
    Option SelectionError :=
  if catalog = [] then some .emptyCatalog
  else if plan.total = 0 ∨ restricted.total = 0 then some .emptyPlan
  else (Selection.shortMode? scored restricted.count GameMode.all).map
    (Selection.tooFew scored restricted.count)

theorem planRefusal?_ne_sampling {catalog : List Layer} {plan restricted : Plan}
    {scored : List (Scored α)} (fault : Selection.SamplingFault) :
    planRefusal? catalog plan restricted scored ≠ some (.sampling fault) := by
  intro h
  unfold planRefusal? at h
  by_cases empty : catalog = []
  · rw [if_pos empty] at h
    cases h
  rw [if_neg empty] at h
  by_cases asked : plan.total = 0 ∨ restricted.total = 0
  · rw [if_pos asked] at h
    cases h
  rw [if_neg asked] at h
  obtain ⟨m, _, hm⟩ := Option.map_eq_some_iff.1 h
  cases hm

/-- Each mode's share was chosen of the layers in `scored`, in mode order. -/
structure Shares (scored : List (Scored α)) (count : GameMode → Nat) (chosen : List (Scored α)) :
    Prop where
  shares : ∃ block : GameMode → List (Scored α), chosen = GameMode.all.flatMap block ∧
    ∀ m, (block m).length = count m ∧ ∀ s ∈ block m, s ∈ scored ∧ s.layer.gameMode = m
  /-- No id is chosen twice. -/
  distinct : (chosen.map (·.layer.id)).Nodup

end

section

variable {α : Type} [Scalar α] {parameters : Parameters α} {history : History} {catalog : List Layer}
  {policy : Policy}

/-- The shares of several modes have no layer in common. -/
theorem shares_of_drawnFrom {count : GameMode → Nat} {block : GameMode → List (Scored α)}
    (h : ∀ m, Selection.DrawnFrom
      (Selection.poolOf (scoreCatalog parameters history catalog policy) m) (count m) (block m)) :
    Shares (scoreCatalog parameters history catalog policy) count (GameMode.all.flatMap block) := by
  have listed {m : GameMode} {s : Scored α} (hs : s ∈ block m) :
      s ∈ scoreCatalog parameters history catalog policy ∧ s.layer.gameMode = m :=
    Selection.mem_poolOf.1 ((h m).mem hs)
  have scored := (scoreCatalog_nodup parameters history catalog policy).of_map
  refine ⟨⟨block, rfl, fun m => ⟨(h m).1, fun s hs => listed hs⟩⟩, ?_⟩
  -- An id determines its layer, so it is enough that no layer is chosen twice: within a mode since it
  -- leaves the pool, and in two modes since it has one mode.
  refine List.Nodup.map_on ?_ (List.nodup_flatMap.2 ⟨fun m _ => (h m).nodup (scored.filter _), ?_⟩)
  · intro s hs s' hs' same
    obtain ⟨m, _, hs⟩ := List.mem_flatMap.1 hs
    obtain ⟨m', _, hs'⟩ := List.mem_flatMap.1 hs'
    exact scoreCatalog_eq_of_id (listed hs).1 (listed hs').1 same
  · refine List.Pairwise.imp ?_ (show GameMode.all.Nodup by decide)
    intro m m' different s hs hs'
    exact different ((listed hs).2.symm.trans (listed hs').2)

theorem requests_eq (plan : Plan) : plan.requests = Selection.requestsOf plan.count GameMode.all := rfl

/-- What is left of choosing once the catalog and the plan ask for something. -/
theorem selectPlan_eq {plan : Plan} (listed : catalog ≠ []) (asked : plan.total ≠ 0)
    (left : (restrictedPlan history catalog plan policy).total ≠ 0) (stream : RandomStream) :
    selectPlan parameters history catalog plan policy stream =
      let (drawn, stream) := Selection.drawRequests
        (scoreCatalog parameters history (eligibleLayers history catalog policy) policy)
        (restrictedPlan history catalog plan policy).requests stream
      (drawn.map Selection.mk, stream) := by
  unfold selectPlan Plan.isEmpty
  rw [if_neg (by simpa using listed), if_neg (by simpa using asked), if_neg (by simpa using left)]

theorem selectPlan_emptyPlan {plan : Plan} (listed : catalog ≠ [])
    (h : plan.total = 0 ∨ (restrictedPlan history catalog plan policy).total = 0)
    (stream : RandomStream) :
    (selectPlan parameters history catalog plan policy stream).1 = .error .emptyPlan := by
  unfold selectPlan Plan.isEmpty
  rw [if_neg (by simpa using listed)]
  by_cases asked : plan.total = 0
  · rw [if_pos (by simpa using asked)]
  · rw [if_neg (by simpa using asked)]
    dsimp only
    rw [if_pos (by simpa using h.resolve_left asked)]

end

/-- Choosing gives what `planRefusal?` says, or else each mode's share. -/
theorem selectPlan_cases (parameters : Parameters Rat) (history : History) (catalog : List Layer)
    (plan : Plan) (policy : Policy) (stream : RandomStream) :
    let restricted := restrictedPlan history catalog plan policy
    let scored := scoreCatalog parameters history (eligibleLayers history catalog policy) policy
    (∃ e, planRefusal? catalog plan restricted scored = some e ∧
      (selectPlan parameters history catalog plan policy stream).1 = .error e) ∨
    (∃ selection, planRefusal? catalog plan restricted scored = none ∧
      (selectPlan parameters history catalog plan policy stream).1 = .ok selection ∧
      Shares scored restricted.count selection.candidates) := by
  intro restricted scored
  have positive : ∀ s ∈ scored, 0 < s.score :=
    fun s hs => isDrawable_iff.1 (scoreCatalog_drawable hs)
  unfold planRefusal?
  by_cases empty : catalog = []
  · rw [if_pos empty]
    refine .inl ⟨_, rfl, ?_⟩
    unfold selectPlan
    rw [if_pos (by simpa using empty)]
  rw [if_neg empty]
  by_cases asked : plan.total = 0 ∨ restricted.total = 0
  · rw [if_pos asked]
    exact .inl ⟨_, rfl, selectPlan_emptyPlan empty asked stream⟩
  rw [if_neg asked]
  obtain ⟨asked, left⟩ := not_or.1 asked
  rw [selectPlan_eq empty asked left, requests_eq]
  cases short : Selection.shortMode? scored restricted.count GameMode.all with
  | some m =>
    obtain ⟨rest, hd⟩ := Selection.drawRequests_short positive short stream
    rw [hd]
    exact .inl ⟨_, rfl, rfl⟩
  | none =>
    obtain ⟨block, rest, hd, shares⟩ :=
      Selection.drawRequests_eq_ok positive (by decide) short stream
    rw [hd]
    exact .inr ⟨_, rfl, rfl, shares_of_drawnFrom fun m => shares m m.mem_all⟩

/-- **Choosing for a plan, completely.** For validated parameters and exact scores: an error is what
`planRefusal?` says, which does not know the random words, and never one of sampling; a choice is each
mode's share; and no look-up and no draw ever misses. -/
theorem selectPlan_complete {parameters : Parameters Rat} {document : Document Rat}
    (valid : Parameters.ofDocument document = .ok parameters) (history : History)
    (catalog : List Layer) (plan : Plan) (policy : Policy) (stream : RandomStream) :
    let restricted := restrictedPlan history catalog plan policy
    let scored := scoreCatalog parameters history (eligibleLayers history catalog policy) policy
    let result := (selectPlan parameters history catalog plan policy stream).1
    (∀ e, result = .error e ↔ planRefusal? catalog plan restricted scored = some e) ∧
    (∀ fault, result ≠ .error (.sampling fault)) ∧
    (∀ selection, result = .ok selection →
      Shares scored restricted.count selection.candidates) ∧
    selectPlan? parameters history catalog plan policy stream =
      some (selectPlan parameters history catalog plan policy stream) := by
  intro restricted scored result
  have refused : ∀ e, result = .error e ↔ planRefusal? catalog plan restricted scored = some e := by
    intro e
    rcases selectPlan_cases parameters history catalog plan policy stream with
      ⟨e', hr, hs⟩ | ⟨selection, hr, hs, _⟩
    · rw [show result = .error e' from hs, show planRefusal? _ _ _ _ = some e' from hr]
      simp
    · rw [show result = .ok selection from hs, show planRefusal? _ _ _ _ = none from hr]
      simp
  refine ⟨refused, ?_, ?_, selectPlan?_eq valid history catalog plan policy stream⟩
  · exact fun fault h => planRefusal?_ne_sampling fault ((refused _).1 h)
  · intro selection h
    rcases selectPlan_cases parameters history catalog plan policy stream with
      ⟨e, _, hs⟩ | ⟨selection', _, hs, shares⟩
    · cases h.symm.trans hs
    · cases h.symm.trans hs
      exact shares

/-- A document with one group of each kind. -/
def foyDocument : Document Rat :=
  ⟨[("Top", ⟨80, 1 / 2, ["foy"]⟩)], [("Day", ⟨100, 1 / 10, [.day]⟩)]⟩

/-- Two layers can be drawn from a catalog that lists one of them twice, but only one of its mode. -/
theorem selectPlan_complete_twice :
    ∃ parameters, Parameters.ofDocument foyDocument = .ok parameters ∧
      (selectPlan parameters .empty
        [⟨"foy_warfare", "foy", .day, .warfare, none⟩, ⟨"foy_warfare", "foy", .day, .control, none⟩,
          ⟨"foy_offensive_us", "foy", .day, .offensive, some .allies⟩]
        ((Plan.empty.set .offensive 1).set .warfare 2) .default ⟨fun _ => 0, 0⟩).1 =
          .error (.insufficientCandidates (some .warfare) 2 1) := by
  have valid : Parameters.ofDocument foyDocument =
      .ok ⟨[⟨"Top", 80, 1 / 2, ["foy"]⟩], [⟨"Day", 100, 1 / 10, [.day]⟩]⟩ := by decide +kernel
  exact ⟨_, valid, ((selectPlan_complete valid _ _ _ _ _).1 _).2 (by decide +kernel)⟩

end MapBallot
