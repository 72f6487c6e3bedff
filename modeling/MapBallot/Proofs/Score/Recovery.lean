import MapBallot.Proofs.Score.Eligibility

/-!
# `MapBallot.Proofs.Score.Recovery` — a layer that is not played recovers

A round elsewhere makes what was played before less recent, whether or not it evicts an older round, and the
less recent a play is, the more is left of a weight. So a layer's score never falls while rounds are played
on other maps and outside its environment group, and the layer stays among those that can be drawn. This
holds of exact fractions, of every tracker, and with and without normalization.

## Contents

* `Elsewhere` — a round that has nothing to do with a layer;
* `unplayed_recovers` — one such round, and a whole run of them.
-/

namespace MapBallot

open Weighting (Document Parameters)

/-- A round on another map, in an environment outside the layer's group. -/
structure Elsewhere (parameters : Parameters Rat) (l : Layer) (play : Play) : Prop where
  map : play.map ≠ l.map
  environment : ∀ g, parameters.environmentGroupOf? l.environment = some g → play.environment ∉ g.members

/-- **A layer that is not played only recovers.** Whatever a tracker holds and however much it keeps, a round
elsewhere takes no layer from those that can be drawn and lowers no score, however far its index is from the
newest one and whichever round it evicts; and so does a run of such rounds. -/
theorem unplayed_recovers {document : Document Rat} {parameters : Parameters Rat}
    (valid : Parameters.ofDocument document = .ok parameters) (catalog : List Layer) (policy : Policy)
    (t : Tracker) :
    (∀ s ∈ scoreCatalog parameters t.history catalog policy, ∀ play, Elsewhere parameters s.layer play →
      ∃ s' ∈ scoreCatalog parameters (t.recordPlay play).2.history catalog policy,
        s'.layer = s.layer ∧ s.score ≤ s'.score) ∧
    (∀ s ∈ scoreCatalog parameters t.history catalog policy, ∀ plays : List Play,
      (∀ play ∈ plays, Elsewhere parameters s.layer play) →
      ∃ s' ∈ scoreCatalog parameters (t.after plays).history catalog policy,
        s'.layer = s.layer ∧ s.score ≤ s'.score) := by
  have run : ∀ s ∈ scoreCatalog parameters t.history catalog policy, ∀ plays : List Play,
      (∀ play ∈ plays, Elsewhere parameters s.layer play) →
      ∃ s' ∈ scoreCatalog parameters (t.after plays).history catalog policy,
        s'.layer = s.layer ∧ s.score ≤ s'.score := by
    intro s hs plays elsewhere
    have maps : t.history.recencyOfMap s.layer.map ≤ (t.after plays).history.recencyOfMap s.layer.map :=
      Tracker.recencyWhere_le_after fun play h => by simpa using (elsewhere play h).map
    refine exists_mem_scoreCatalog_of_le valid maps (fun g hg => ?_) hs
    exact Tracker.recencyWhere_le_after fun play h => by simpa using (elsewhere play h).environment g hg
  exact ⟨fun s hs play elsewhere => run s hs [play] (by simpa using elsewhere), run⟩

/-- The validated groups of `twilightDocument`. -/
def twilightParameters : Parameters Rat :=
  ⟨[⟨"Top", 80, 1 / 2, ["foy", "kursk"]⟩],
    [⟨"Day", 100, 1 / 10, [.day]⟩, ⟨"Twilight", 60, 1 / 4, [.dusk, .night]⟩]⟩

/-- A tracker that has no room for a third round. -/
def fullTracker : Tracker where
  retention := 2
  history := .ofPlays [⟨"kursk", .night, 3, none, .epoch⟩, ⟨"foy", .day, 4, none, .epoch⟩]
  retention_pos := Nat.two_pos

/-- A round on a map without a group, by night, five rounds on. -/
def utahNight : Play := ⟨"utah", .night, 9, none, .epoch⟩

/-- A round on Utah evicts the one on Kursk, and the layer on Kursk by day recovers. -/
theorem unplayed_recovers_evicted :
    Parameters.ofDocument twilightDocument = .ok twilightParameters ∧
      Elsewhere twilightParameters kurskWarfare utahNight ∧
      ((fullTracker.recordPlay utahNight).2.history.plays.map Play.map) = ["foy", "utah"] ∧
      scoreCatalog twilightParameters fullTracker.history [kurskWarfare] .default =
        [⟨kurskWarfare, 4200⟩] ∧
      ∃ s ∈ scoreCatalog twilightParameters (fullTracker.recordPlay utahNight).2.history [kurskWarfare]
        .default, s.layer = kurskWarfare ∧ 4200 ≤ s.score := by
  have valid : Parameters.ofDocument twilightDocument = .ok twilightParameters := by decide +kernel
  have scored : scoreCatalog twilightParameters fullTracker.history [kurskWarfare] .default =
      [⟨kurskWarfare, 4200⟩] := by decide +kernel
  have elsewhere : Elsewhere twilightParameters kurskWarfare utahNight := by
    refine ⟨by decide, fun g hg => ?_⟩
    obtain rfl := Option.some_inj.1 (hg.symm.trans
      (rfl : _ = some (⟨"Day", 100, 1 / 10, [.day]⟩ : Weighting.Group Environment Rat)))
    decide
  exact ⟨valid, elsewhere, by decide +kernel, scored, (unplayed_recovers valid [kurskWarfare] .default
    fullTracker).1 ⟨kurskWarfare, 4200⟩ (by simp [scored]) utahNight elsewhere⟩

end MapBallot
