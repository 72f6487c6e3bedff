import MapBallot.Proofs.Exclusion.Runs

/-!
# `MapBallot.Proofs.Exclusion.Stricter` — stricter rules never permit more

Rules are stricter than others if they look further back, take maps into account wherever the others do,
and allow nothing about consecutive modes that the others do not. The rules about offensive layers leave
things out in two ways: they may stop the mode, or bar a side from attacking. When stricter rules stop the
mode, they bar no side any more, so what they leave out has to be compared as a whole.

## Contents

* `ExclusionRules.Stricter` — rules that are at least as strict as others;
* `Exclusions.Covers` — exclusions that leave out at least as much as others;
* `Covers.permits`, `count_restrict`, `Covers.count_restrict_le` — what is offered and asked for then;
* `recentPlays_subset`, `Covers.resolve` — stricter rules leave out at least as much;
* `permits_of_stricter` — hence they permit no more, and no more is asked for under them.
-/

namespace MapBallot

/-- `strict` looks at least as far back as `lax`, takes maps into account wherever `lax` does, and allows
nothing that `lax` does not. -/
structure ExclusionRules.Stricter (strict lax : ExclusionRules) : Prop where
  lastPlayedToExclude : lax.lastPlayedToExclude ≤ strict.lastPlayedToExclude
  offensiveSameMap : lax.offensiveSameMap = true → strict.offensiveSameMap = true
  skirmishSameMap : lax.skirmishSameMap = true → strict.skirmishSameMap = true
  consecutiveOffensives : lax.consecutiveOffensives = false → strict.consecutiveOffensives = false
  consecutiveOffensivesOppositeSides : lax.consecutiveOffensivesOppositeSides = false →
    strict.consecutiveOffensivesOppositeSides = false
  consecutiveSkirmishes : lax.consecutiveSkirmishes = false → strict.consecutiveSkirmishes = false

namespace Exclusions

/-- Whatever `less` leaves out, `more` leaves out as well. A side that may not attack next is left out also
where offensive layers are left out altogether. -/
structure Covers (more less : Exclusions) : Prop where
  layers : less.layers ⊆ more.layers
  offensiveMaps : less.offensiveMaps ⊆ more.offensiveMaps
  controlMaps : less.controlMaps ⊆ more.controlMaps
  suppressed (mode : GameMode) : less.suppressed = some mode → more.suppressed = some mode
  barredAttackers (side : Team) : less.barredAttackers = some side →
    more.barredAttackers = some side ∨ more.suppressed = some .offensive

/-! ## What is offered and asked for -/

section

variable {more less : Exclusions}

/-- What leaves out more permits less. -/
theorem Covers.permits (h : more.Covers less) {l : Layer} (permitted : more.permits l = true) :
    less.permits l = true := by
  obtain ⟨unplayed, unstopped, offensive, control⟩ := permits_iff.1 permitted
  refine permits_iff.2 ⟨?layers, ?mode, ?offensive, ?control⟩
  case layers => exact fun played => unplayed (h.layers played)
  case mode => exact fun stopped => unstopped (h.suppressed l.gameMode stopped)
  case offensive =>
    intro mode
    obtain ⟨map, side⟩ := offensive mode
    refine ⟨fun played => map (h.offensiveMaps played), ?_⟩
    cases barred : less.barredAttackers with
    | none => exact .inl rfl
    | some attacking =>
      refine .inr fun opposed => ?_
      -- A side that is not barred any more has no mode left to attack in.
      rcases h.barredAttackers attacking barred with also | stopped
      · rw [also] at side
        exact side.elim nofun fun free => free opposed
      · exact unstopped (stopped.trans (congrArg some mode.symm))
  case control => exact fun mode played => control mode (h.controlMaps played)

/-- A plan is restricted by striking the mode that may not follow. -/
theorem count_restrict (e : Exclusions) (plan : Plan) (mode : GameMode) :
    (e.restrict plan).count mode = if e.suppressed = some mode then 0 else plan.count mode := by
  unfold restrict Plan.count
  cases e.suppressed with
  | none => rfl
  | some stopped =>
    by_cases same : stopped = mode
    · subst same
      rw [if_pos rfl, plan.listed_set_self]
      rfl
    · have other : mode ≠ stopped := fun h => same h.symm
      rw [if_neg (mt Option.some_inj.1 same), plan.listed_set_of_ne 0 other]

/-- What leaves out more asks for less of every mode. -/
theorem Covers.count_restrict_le (h : more.Covers less) (plan : Plan) (mode : GameMode) :
    (more.restrict plan).count mode ≤ (less.restrict plan).count mode := by
  rw [count_restrict, count_restrict]
  by_cases stopped : less.suppressed = some mode
  · rw [if_pos stopped, if_pos (h.suppressed mode stopped)]
  · rw [if_neg stopped]
    split
    · exact Nat.zero_le _
    · exact Nat.le_refl _

end

/-! ## What stricter rules leave out -/

section

variable {strict lax : ExclusionRules}

/-- Looking further back adds rounds at the old end. -/
theorem recentPlays_subset (further : lax.lastPlayedToExclude ≤ strict.lastPlayedToExclude)
    (history : History) : recentPlays lax history ⊆ recentPlays strict history := by
  have enough : lax.lastPlayedToExclude.toNat ≤ strict.lastPlayedToExclude.toNat :=
    UInt64.le_iff_toNat_le.1 further
  exact (List.drop_sublist_drop_left _ (Nat.sub_le_sub_left enough _)).subset

theorem suppressedAfter_of_stricter (h : strict.Stricter lax) {current : Layer} {mode : GameMode}
    (stopped : suppressedAfter lax current = some mode) : suppressedAfter strict current = some mode := by
  obtain ⟨same, stops⟩ := suppressedAfter_eq_some_iff.1 stopped
  refine suppressedAfter_eq_some_iff.2 ⟨same, ?_⟩
  rcases stops with ⟨offensive, off⟩ | ⟨control, off⟩
  · exact .inl ⟨offensive, h.consecutiveOffensives off⟩
  · exact .inr ⟨control, h.consecutiveSkirmishes off⟩

/-- A side that lax rules bar is barred by strict ones, unless these allow no offensive layer at all. -/
theorem barredAfter_of_stricter (h : strict.Stricter lax) {current : Layer} {side : Team}
    (barred : barredAfter lax current = some side) :
    barredAfter strict current = some side ∨ suppressedAfter strict current = some .offensive := by
  obtain ⟨⟨offensive, _, oneSide⟩, attacking⟩ := barredAfter_eq_some_iff.1 barred
  cases allowed : strict.consecutiveOffensives with
  | true =>
    have oneSide : strict.consecutiveOffensivesOppositeSides = false :=
      h.consecutiveOffensivesOppositeSides oneSide
    exact .inl (barredAfter_eq_some_iff.2 ⟨⟨offensive, allowed, oneSide⟩, attacking⟩)
  | false => exact .inr (suppressedAfter_eq_some_iff.2 ⟨offensive, .inl ⟨rfl, allowed⟩⟩)

/-- Maps are left out for a flag that is on. -/
theorem maps_subset {on on' : Bool} {maps maps' : List String} (turned : on = true → on' = true)
    (wider : maps ⊆ maps') : (if on then maps else []) ⊆ if on' then maps' else [] := by
  cases on with
  | false => exact List.nil_subset _
  | true =>
    rw [turned rfl]
    exact wider

/-- **Stricter rules leave out at least as much.** -/
theorem Covers.resolve (h : strict.Stricter lax) (history : History) (catalog : List Layer) :
    (resolve strict history catalog).Covers (resolve lax history catalog) := by
  have recent := recentPlays_subset h.lastPlayedToExclude history
  have maps : (recentPlays lax history).map Play.map ⊆ (recentPlays strict history).map Play.map :=
    List.map_subset _ recent
  refine
    { layers := ?layers
      offensiveMaps := maps_subset h.offensiveSameMap maps
      controlMaps := maps_subset h.skirmishSameMap maps
      suppressed := ?suppressed
      barredAttackers := ?barred }
  case layers =>
    refine List.filterMap_subset _ (List.append_subset.2 ⟨?_, ?_⟩)
    · exact List.subset_append_left _ _
    · exact List.subset_append_of_subset_right _ recent
  case suppressed =>
    intro mode stopped
    obtain ⟨current, known, after⟩ := Option.bind_eq_some_iff.1 stopped
    exact Option.bind_eq_some_iff.2 ⟨current, known, suppressedAfter_of_stricter h after⟩
  case barred =>
    intro side barred
    obtain ⟨current, known, after⟩ := Option.bind_eq_some_iff.1 barred
    rcases barredAfter_of_stricter h after with also | stopped
    · exact .inl (Option.bind_eq_some_iff.2 ⟨current, known, also⟩)
    · exact .inr (Option.bind_eq_some_iff.2 ⟨current, known, stopped⟩)

end

/-- **Stricter rules never permit more.** After every history and for every catalog, a layer that stricter
rules permit is permitted by the others, and of every mode a plan asks for no more under them. -/
theorem permits_of_stricter {strict lax : ExclusionRules} (h : strict.Stricter lax) (history : History)
    (catalog : List Layer) :
    (∀ l, (resolve strict history catalog).permits l = true →
      (resolve lax history catalog).permits l = true) ∧
    ∀ plan mode, ((resolve strict history catalog).restrict plan).count mode ≤
      ((resolve lax history catalog).restrict plan).count mode := by
  have covers := Covers.resolve h history catalog
  exact ⟨fun l => covers.permits, covers.count_restrict_le⟩

/-- Rules by which the side that defends may not attack next. -/
def oneSidedRules : ExclusionRules := { ExclusionRules.none with consecutiveOffensivesOppositeSides := false }

/-- Those rules, with no offensive layer after an offensive layer, and a look at one more round. -/
def noOffensiveRules : ExclusionRules :=
  { oneSidedRules with lastPlayedToExclude := 1, consecutiveOffensives := false }

/-- A round on foy, and one on an offensive layer of hill400, on which the allies attack. -/
def offensiveHistory : History where
  plays := [⟨"foy", .day, 1, some "foy_warfare", .epoch⟩,
    ⟨"hill400", .day, 2, some "hill400_offensive_us", .epoch⟩]
  ascending := by decide

/-- Those two layers, and offensive layers of kursk for either side. -/
def offensiveCatalog : List Layer :=
  [⟨"foy_warfare", "foy", .day, .warfare, .none⟩,
    ⟨"hill400_offensive_us", "hill400", .day, .offensive, some .allies⟩,
    ⟨"kursk_offensive_us", "kursk", .day, .offensive, some .allies⟩,
    ⟨"kursk_offensive_ger", "kursk", .day, .offensive, some .axis⟩]

/-- The stricter rules bar no side, and yet no layer that the others leave out is offered again, nor is an
offensive layer asked for. -/
theorem permits_of_stricter_offensive :
    let strict := resolve noOffensiveRules offensiveHistory offensiveCatalog
    let lax := resolve oneSidedRules offensiveHistory offensiveCatalog
    noOffensiveRules.Stricter oneSidedRules ∧
      (lax.barredAttackers = some .axis ∧ strict.barredAttackers = .none) ∧
      ((∀ l, strict.permits l = true → lax.permits l = true) ∧
        ∀ plan mode, (strict.restrict plan).count mode ≤ (lax.restrict plan).count mode) ∧
      (offensiveCatalog.filter lax.permits).map Layer.id = ["foy_warfare", "kursk_offensive_us"] ∧
      (offensiveCatalog.filter strict.permits).map Layer.id = [] ∧
      (lax.restrict .standard).count .offensive = 2 ∧ (strict.restrict .standard).count .offensive = 0 := by
  intro strict lax
  have stricter : noOffensiveRules.Stricter oneSidedRules :=
    ⟨by decide, by decide, by decide, by decide, by decide, by decide⟩
  exact ⟨stricter, by decide, permits_of_stricter stricter offensiveHistory offensiveCatalog, by decide,
    by decide, by decide, by decide⟩

end Exclusions

end MapBallot
