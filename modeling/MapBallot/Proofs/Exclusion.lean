import MapBallot.Selection.Basic

/-!
# `MapBallot.Proofs.Exclusion` — what may follow the layer being played

The rules about consecutive modes compare a layer with the one being played, which is looked up in the
catalog that is chosen from. Where it is found, nothing that the rules forbid is offered. Where it is
not — because the catalog was narrowed to a list that leaves it out — these rules do nothing at all.

## Contents

* `ExclusionRules.MayFollow`, `Policy.lifted` — what the rules say, and the policy without them;
* `Exclusions.permits_iff`, `mayFollow_of_permits` — what is left of a catalog may follow;
* `currentLayer?_filter` — the layer being played, looked up in a narrowed catalog;
* `selectPlan_lifted` — choosing where it is not found.
-/

namespace MapBallot

/-- As far as the rules about consecutive modes go, `next` may follow `current`. -/
structure ExclusionRules.MayFollow (rules : ExclusionRules) (current next : Layer) : Prop where
  control : current.gameMode = .control → rules.consecutiveSkirmishes = false →
    next.gameMode ≠ .control
  offensive : current.gameMode = .offensive → rules.consecutiveOffensives = false →
    next.gameMode ≠ .offensive
  /-- The side that defends does not attack next. -/
  sides : current.gameMode = .offensive → rules.consecutiveOffensivesOppositeSides = false →
    ∀ side, current.attackers = some side → next.gameMode = .offensive →
    next.attackers ≠ some side.opponent

/-- The rules with everything allowed about consecutive modes. -/
def ExclusionRules.lifted (rules : ExclusionRules) : ExclusionRules :=
  { rules with
    consecutiveOffensives := true
    consecutiveOffensivesOppositeSides := true
    consecutiveSkirmishes := true }

/-- The policy with everything allowed about consecutive modes. -/
def Policy.lifted (policy : Policy) : Policy := { policy with exclusions := policy.exclusions.lifted }

namespace Exclusions

variable {rules : ExclusionRules} {history : History} {catalog : List Layer}

/-- A layer may be offered if it is none of those that are left out, its mode may follow, and its map
and its side are not barred for its mode. -/
theorem permits_iff {e : Exclusions} {l : Layer} :
    e.permits l = true ↔ l.id ∉ e.layers ∧ e.suppressed ≠ some l.gameMode ∧
      (l.gameMode = .offensive → l.map ∉ e.offensiveMaps ∧
        (e.barredAttackers = .none ∨ l.attackers ≠ e.barredAttackers)) ∧
      (l.gameMode = .control → l.map ∉ e.controlMaps) := by
  unfold permits
  cases l.gameMode <;> simp [and_assoc]

/-- Where the layer being played is known, whatever may be offered may follow it. -/
theorem mayFollow_of_permits {current l : Layer}
    (known : currentLayer? history catalog = some current)
    (permitted : (resolve rules history catalog).permits l = true) : rules.MayFollow current l := by
  obtain ⟨_, mode, offensive, _⟩ := permits_iff.1 permitted
  have suppressed : (resolve rules history catalog).suppressed = suppressedAfter rules current := by
    simp only [resolve, known, Option.bind_some]
  have barred : (resolve rules history catalog).barredAttackers = barredAfter rules current := by
    simp only [resolve, known, Option.bind_some]
  rw [suppressed] at mode
  rw [barred] at offensive
  have noOffensive (now : current.gameMode = .offensive) (off : rules.consecutiveOffensives = false) :
      l.gameMode ≠ .offensive := by
    intro next
    simp [suppressedAfter, now, off, next] at mode
  refine ⟨?control, noOffensive, ?sides⟩
  case control =>
    intro now off next
    simp [suppressedAfter, now, off, next] at mode
  case sides =>
    intro now off side attacking next opposed
    -- If no offensive layer may follow at all, the question does not arise.
    cases on : rules.consecutiveOffensives with
    | false => exact noOffensive now on next
    | true =>
      have side : barredAfter rules current = some side.opponent := by
        simp [barredAfter, now, on, off, attacking]
      rw [side] at offensive
      rcases (offensive next).2 with none | different
      · cases none
      · exact different opposed

/-- Where the layer being played is not known, the rules about consecutive modes do nothing. -/
theorem resolve_lifted (unknown : currentLayer? history catalog = .none) :
    resolve rules.lifted history catalog = resolve rules history catalog := by
  unfold resolve
  rw [unknown]
  rfl

/-- A layer is found by its id among the listed ones if it is found at all and its id is listed. -/
theorem find?_filter_id (ids : List String) (id : String) (catalog : List Layer) :
    (catalog.filter fun l => ids.contains l.id).find? (·.id == id) =
      (catalog.find? (·.id == id)).filter fun l => ids.contains l.id := by
  induction catalog with
  | nil => rfl
  | cons l catalog ih =>
    by_cases same : l.id = id
    · subst same
      rw [List.find?_cons_of_pos (by simp)]
      by_cases listed : ids.contains l.id = true
      · rw [List.filter_cons, if_pos listed, List.find?_cons_of_pos (by simp), Option.filter_some,
          if_pos listed]
      · -- No layer with this id is listed, so none of the others is the one either.
        have none : (catalog.filter fun l => ids.contains l.id).find? (·.id == l.id) = .none := by
          rw [List.find?_eq_none]
          intro other ho found
          have same : other.id = l.id := by simpa using found
          exact listed (same ▸ (List.mem_filter.1 ho).2)
        rw [List.filter_cons, if_neg listed, none, Option.filter_some, if_neg listed]
    · rw [List.find?_cons_of_neg (by simpa using same), ← ih, List.filter_cons]
      by_cases listed : ids.contains l.id = true
      · rw [if_pos listed, List.find?_cons_of_neg (by simpa using same)]
      · rw [if_neg listed]

/-- **The layer being played is looked up among the listed layers only.** -/
theorem currentLayer?_filter (ids : List String) :
    currentLayer? history (catalog.filter fun l => ids.contains l.id) =
      (currentLayer? history catalog).filter fun l => ids.contains l.id := by
  unfold currentLayer?
  cases history.latest? with
  | none => rfl
  | some play =>
    cases hid : play.layerId with
    | none => simp [hid]
    | some id => simpa [hid] using find?_filter_id ids id catalog

end Exclusions

section

variable {α : Type} [Scalar α] {history : History} {catalog : List Layer}

/-- Where the layer being played is not known, a choice is made as if everything were allowed about
consecutive modes. -/
theorem selectPlan_lifted (unknown : Exclusions.currentLayer? history catalog = none)
    (parameters : Weighting.Parameters α) (plan : Plan) (policy : Policy) (stream : RandomStream) :
    selectPlan parameters history catalog plan policy.lifted stream =
      selectPlan parameters history catalog plan policy stream := by
  have same : Exclusions.resolve policy.lifted.exclusions history catalog =
      Exclusions.resolve policy.exclusions history catalog := Exclusions.resolve_lifted unknown
  unfold selectPlan restrictedPlan eligibleLayers
  rw [same]
  rfl

end

end MapBallot
