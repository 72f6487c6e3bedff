import MapBallot.Proofs.Exclusion
import MapBallot.Proofs.History.Runs
import MapBallot.Proofs.Selection.Content

/-!
# `MapBallot.Proofs.Exclusion.Runs` — which layers may not follow a run of rounds

The exclusion rules look at a history, and a history is what a tracker kept of a whole run of rounds, some
of which it refused and some of which it evicted. This module states which layers the rules leave out in
terms of the rounds that were appended: the newest of them is being played, and those right before it, no
more than the rules ask for and no more than the tracker keeps, were played recently.

## Contents

* `ExclusionRules.Stops`, `Closed`, `Barred` — why a mode, and why a layer, may not follow some rounds;
* `recentPlays_eq_rtake`, `currentLayer?_eq_some_iff`, `mem_layers_iff` and others — what the rules find;
* `permits_eq_false_iff`, `listed_restrict_closed`, `listed_restrict_open` — what they leave out;
* `plays_after_run` — the newest round and those before it that are kept after a run;
* `permits_after_run` — what the rules leave out after a run.
-/

namespace MapBallot

/-- By the rules, no layer of the mode follows one of the mode. -/
def ExclusionRules.Stops (rules : ExclusionRules) (mode : GameMode) : Prop :=
  mode = .offensive ∧ rules.consecutiveOffensives = false ∨
    mode = .control ∧ rules.consecutiveSkirmishes = false

namespace Exclusions

/-- A mode may not follow the round `current`: it is the mode of the layer that the round was played on,
and does not follow itself. -/
def Closed (rules : ExclusionRules) (catalog : List Layer) (current : Play) (mode : GameMode) : Prop :=
  ∃ now ∈ catalog, current.layerId = some now.id ∧ now.gameMode = mode ∧ rules.Stops mode

/-- Why a layer may not follow the rounds `recent` and then `current`. -/
inductive Barred (rules : ExclusionRules) (catalog : List Layer) (recent : List Play) (current : Play)
    (l : Layer) : Prop
  /-- One of the rounds was played on it. -/
  | played {p : Play} (round : p ∈ current :: recent) (named : p.layerId = some l.id)
  /-- It is offensive, and its map was played in one of the recent rounds. -/
  | offensiveMap {p : Play} (mode : l.gameMode = .offensive) (on : rules.offensiveSameMap = true)
      (round : p ∈ recent) (map : p.map = l.map)
  /-- It is control, and its map was played in one of the recent rounds. -/
  | controlMap {p : Play} (mode : l.gameMode = .control) (on : rules.skirmishSameMap = true)
      (round : p ∈ recent) (map : p.map = l.map)
  /-- Its mode does not follow itself. -/
  | sameMode (closed : Closed rules catalog current l.gameMode)
  /-- The side that defends now would attack. -/
  | otherSide {now : Layer} {side : Team} (listed : now ∈ catalog)
      (named : current.layerId = some now.id) (mode : l.gameMode = .offensive)
      (offensive : now.gameMode = .offensive) (allowed : rules.consecutiveOffensives = true)
      (off : rules.consecutiveOffensivesOppositeSides = false) (attacking : now.attackers = some side)
      (opposed : l.attackers = some side.opponent)

/-! ## What the rules find -/

section

variable {rules : ExclusionRules} {history : History} {catalog : List Layer} {current : Play}

/-- The layer being played is the one that the newest round names. -/
theorem currentLayer?_eq_some_iff (consistent : Consistent catalog)
    (latest : history.latest? = some current) {now : Layer} :
    currentLayer? history catalog = some now ↔ now ∈ catalog ∧ current.layerId = some now.id := by
  unfold currentLayer?
  rw [latest]
  cases named : current.layerId with
  | none => simp [named]
  | some id => simpa [named] using find?_id_eq_some_iff consistent

theorem suppressedAfter_eq_some_iff {now : Layer} {mode : GameMode} :
    suppressedAfter rules now = some mode ↔ now.gameMode = mode ∧ rules.Stops mode := by
  unfold suppressedAfter ExclusionRules.Stops
  cases now.gameMode <;> cases mode <;> simp

theorem barredAfter_eq_some_iff {now : Layer} {side : Team} :
    barredAfter rules now = some side ↔
      (now.gameMode = .offensive ∧ rules.consecutiveOffensives = true ∧
        rules.consecutiveOffensivesOppositeSides = false) ∧
      ∃ attacking, now.attackers = some attacking ∧ attacking.opponent = side := by
  unfold barredAfter
  split
  · rename_i h
    simp only [Bool.and_eq_true, decide_eq_true_eq, Bool.not_eq_true'] at h
    simp [h, Option.map_eq_some_iff]
  · rename_i h
    simp only [Bool.and_eq_true, decide_eq_true_eq, Bool.not_eq_true', and_assoc] at h
    simp [h]

theorem mem_layers_iff (latest : history.latest? = some current) {id : String} :
    id ∈ (resolve rules history catalog).layers ↔
      ∃ p ∈ current :: recentPlays rules history, p.layerId = some id := by
  simp [resolve, latest]

theorem mem_offensiveMaps_iff {map : String} :
    map ∈ (resolve rules history catalog).offensiveMaps ↔
      rules.offensiveSameMap = true ∧ ∃ p ∈ recentPlays rules history, p.map = map := by
  by_cases on : rules.offensiveSameMap = true <;> simp [resolve, on]

theorem mem_controlMaps_iff {map : String} :
    map ∈ (resolve rules history catalog).controlMaps ↔
      rules.skirmishSameMap = true ∧ ∃ p ∈ recentPlays rules history, p.map = map := by
  by_cases on : rules.skirmishSameMap = true <;> simp [resolve, on]

theorem suppressed_eq_some_iff (consistent : Consistent catalog)
    (latest : history.latest? = some current) {mode : GameMode} :
    (resolve rules history catalog).suppressed = some mode ↔ Closed rules catalog current mode := by
  simp only [resolve, Option.bind_eq_some_iff, currentLayer?_eq_some_iff consistent latest,
    suppressedAfter_eq_some_iff, Closed, and_assoc]

theorem barredAttackers_eq_some_iff (consistent : Consistent catalog)
    (latest : history.latest? = some current) {side : Team} :
    (resolve rules history catalog).barredAttackers = some side ↔
      ∃ now ∈ catalog, current.layerId = some now.id ∧ barredAfter rules now = some side := by
  simp only [resolve, Option.bind_eq_some_iff, currentLayer?_eq_some_iff consistent latest, and_assoc]

/-- The recent rounds are the last ones before the newest. -/
theorem recentPlays_eq_rtake {earlier : List Play} (plays : history.plays = earlier ++ [current]) :
    recentPlays rules history = earlier.rtake rules.lastPlayedToExclude.toNat := by
  unfold recentPlays
  rw [plays, List.dropLast_concat]
  rfl

/-! ## What the rules leave out -/

/-- **A layer may not be offered for one of five reasons.** -/
theorem permits_eq_false_iff (consistent : Consistent catalog)
    (latest : history.latest? = some current) {l : Layer} :
    (resolve rules history catalog).permits l = false ↔
      Barred rules catalog (recentPlays rules history) current l := by
  constructor
  · intro refused
    by_contra free
    refine absurd (permits_iff.2 ⟨?played, ?sameMode, ?offensive, ?control⟩) (by rw [refused]; decide)
    case played =>
      rw [mem_layers_iff latest]
      rintro ⟨p, round, named⟩
      exact free (.played round named)
    case sameMode =>
      rw [Ne, suppressed_eq_some_iff consistent latest]
      exact fun closed => free (.sameMode closed)
    case offensive =>
      intro mode
      constructor
      · rw [mem_offensiveMaps_iff]
        rintro ⟨on, p, round, map⟩
        exact free (.offensiveMap mode on round map)
      · cases barred : (resolve rules history catalog).barredAttackers with
        | none => exact .inl rfl
        | some side =>
          obtain ⟨now, listed, named, after⟩ := (barredAttackers_eq_some_iff consistent latest).1 barred
          obtain ⟨⟨offensive, allowed, off⟩, attacking, known, rfl⟩ := barredAfter_eq_some_iff.1 after
          exact .inr fun opposed =>
            free (.otherSide listed named mode offensive allowed off known opposed)
    case control =>
      intro mode
      rw [mem_controlMaps_iff]
      rintro ⟨on, p, round, map⟩
      exact free (.controlMap mode on round map)
  · intro barred
    by_contra permitted
    obtain ⟨unplayed, open?, offensive, control⟩ := permits_iff.1 (eq_true_of_ne_false permitted)
    cases barred with
    | played round named => exact unplayed ((mem_layers_iff latest).2 ⟨_, round, named⟩)
    | offensiveMap mode on round map =>
      exact (offensive mode).1 (mem_offensiveMaps_iff.2 ⟨on, _, round, map⟩)
    | controlMap mode on round map =>
      exact control mode (mem_controlMaps_iff.2 ⟨on, _, round, map⟩)
    | sameMode closed => exact open? ((suppressed_eq_some_iff consistent latest).2 closed)
    | otherSide listed named mode now allowed off attacking opposed =>
      have barred : (resolve rules history catalog).barredAttackers = some _ :=
        (barredAttackers_eq_some_iff consistent latest).2
          ⟨_, listed, named, barredAfter_eq_some_iff.2 ⟨⟨now, allowed, off⟩, _, attacking, rfl⟩⟩
      rw [barred] at offensive
      rcases (offensive mode).2 with none | other
      · cases none
      · exact other opposed

/-- A mode that may not follow is struck from a plan. -/
theorem listed_restrict_closed (consistent : Consistent catalog)
    (latest : history.latest? = some current) {mode : GameMode}
    (closed : Closed rules catalog current mode) (plan : Plan) :
    ((resolve rules history catalog).restrict plan).listed mode = some 0 := by
  unfold restrict
  rw [(suppressed_eq_some_iff consistent latest).2 closed]
  exact plan.listed_set_self mode 0

/-- Any other mode is asked for as it was. -/
theorem listed_restrict_open (consistent : Consistent catalog)
    (latest : history.latest? = some current) {mode : GameMode}
    (unclosed : ¬ Closed rules catalog current mode) (plan : Plan) :
    ((resolve rules history catalog).restrict plan).listed mode = plan.listed mode := by
  rw [← suppressed_eq_some_iff consistent latest] at unclosed
  unfold restrict
  cases suppressed : (resolve rules history catalog).suppressed with
  | none => rfl
  | some other => exact plan.listed_set_of_ne 0 fun same => unclosed (same ▸ suppressed)

/-- Where nothing was played, nothing is left out. -/
theorem resolve_eq_none (unplayed : history.plays = []) : resolve rules history catalog = .none := by
  have latest : history.latest? = .none := List.getLast?_eq_none_iff.2 unplayed
  simp [resolve, currentLayer?, recentPlays, latest, unplayed, Exclusions.none]

theorem permits_none (l : Layer) : Exclusions.none.permits l = true := by
  unfold permits
  cases l.gameMode <;> rfl

/-! ## Runs of rounds -/

/-- After a run, the newest round is the one that was appended last, and the history holds as many rounds
before it as fit. -/
theorem plays_after_run {retention : Nat} {ps earlier : List Play}
    (appended : (Tracker.withRetention retention).appended ps = earlier ++ [current]) :
    ((Tracker.withRetention retention).after ps).history.plays =
      earlier.rtake (retention - 1) ++ [current] := by
  have enough : max retention 1 = (retention - 1) + 1 := by omega
  rw [Tracker.plays_after (Nat.zero_le _), appended]
  show (earlier ++ [current]).rtake (max retention 1) = _
  rw [enough, List.rtake_concat_succ]

end

/-- **What may not follow a run of rounds.** Where no round was appended, everything may. Else the round
that was appended last is being played; of the rounds appended before it, the last ones were played
recently, as many as the rules ask for and as fit into the history beside it. -/
theorem permits_after_run (retention : Nat) (ps : List Play) (rules : ExclusionRules)
    {catalog : List Layer} (distinct : (catalog.map Layer.id).Nodup) :
    let rounds := (Tracker.withRetention retention).appended ps
    let e := resolve rules ((Tracker.withRetention retention).after ps).history catalog
    (rounds = [] → (∀ l, e.permits l = true) ∧ ∀ plan, e.restrict plan = plan) ∧
      ∀ earlier current, rounds = earlier ++ [current] →
        let recent := earlier.rtake (min rules.lastPlayedToExclude.toNat (retention - 1))
        (∀ l, e.permits l = false ↔ Barred rules catalog recent current l) ∧
          ∀ plan mode,
            (Closed rules catalog current mode → (e.restrict plan).listed mode = some 0) ∧
            (¬ Closed rules catalog current mode → (e.restrict plan).listed mode = plan.listed mode) := by
  intro rounds e
  have consistent : Consistent catalog := consistent_of_nodup distinct
  constructor
  case left =>
    intro none
    have unplayed : ((Tracker.withRetention retention).after ps).history.plays = [] := by
      rw [Tracker.plays_after (Nat.zero_le _)]
      show rounds.rtake (max retention 1) = []
      rw [none, List.rtake_nil]
    have nothing : e = Exclusions.none := resolve_eq_none unplayed
    rw [nothing]
    exact ⟨permits_none, fun plan => rfl⟩
  case right =>
    intro earlier current split recent
    have plays := plays_after_run split
    have latest : ((Tracker.withRetention retention).after ps).history.latest? = some current := by
      rw [History.latest?, plays, List.getLast?_concat]
    have played : recentPlays rules ((Tracker.withRetention retention).after ps).history = recent := by
      rw [recentPlays_eq_rtake plays, rtake_rtake]
    refine ⟨fun l => ?_, fun plan mode => ⟨fun closed => ?_, fun unclosed => ?_⟩⟩
    · rw [← played]
      exact permits_eq_false_iff consistent latest
    · exact listed_restrict_closed consistent latest closed plan
    · exact listed_restrict_open consistent latest unclosed plan

/-- Rounds on kursk, on foy, which was announced twice, and on hill400. -/
def rotationRounds : List Play :=
  [⟨"kursk", .day, 1, .none, .epoch⟩, ⟨"foy", .day, 2, .none, .epoch⟩, ⟨"foy", .day, 2, .none, .epoch⟩,
    ⟨"hill400", .day, 3, some "hill400_skirmish", .epoch⟩]

/-- A catalog of the last of these layers, another control layer, and offensives on foy and kursk. -/
def rotationCatalog : List Layer :=
  [⟨"hill400_skirmish", "hill400", .day, .control, .none⟩, ⟨"foy_skirmish", "foy", .day, .control, .none⟩,
    ⟨"foy_offensive_us", "foy", .day, .offensive, some .allies⟩,
    ⟨"kursk_offensive_ger", "kursk", .day, .offensive, some .axis⟩]

/-- A tracker that keeps two rounds forgets kursk, although the default rules ask for three rounds: of
the whole catalog, its offensive may be offered. -/
theorem permits_after_run_evicted :
    let e := resolve .default ((Tracker.withRetention 2).after rotationRounds).history rotationCatalog
    (rotationCatalog.map Layer.id).Nodup ∧
      (∀ l, e.permits l = false ↔
        Barred .default rotationCatalog [⟨"foy", .day, 2, .none, .epoch⟩]
          ⟨"hill400", .day, 3, some "hill400_skirmish", .epoch⟩ l) ∧
      (rotationCatalog.filter e.permits).map Layer.id = ["kursk_offensive_ger"] := by
  have distinct : (rotationCatalog.map Layer.id).Nodup := by decide
  have rounds : (Tracker.withRetention 2).appended rotationRounds =
      [⟨"kursk", .day, 1, .none, .epoch⟩, ⟨"foy", .day, 2, .none, .epoch⟩] ++
        [⟨"hill400", .day, 3, some "hill400_skirmish", .epoch⟩] := by decide
  exact ⟨distinct, ((permits_after_run 2 rotationRounds .default distinct).2 _ _ rounds).1, by decide⟩

end Exclusions

end MapBallot
