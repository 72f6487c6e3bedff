import MapBallot.History.Tracker

/-!
# `MapBallot.Proofs.History.Tracker` — what recording a round does

## Contents

* `Play.before_asymm`, `History.ofPlays_eq` — an ascending history is kept as it is;
* `judge_eq_appended_iff` — a round may follow if it is newer than all recorded ones;
* `recordPlay_rejected`, `plays_recordPlay`, `latest?_recordPlay` — a round that may not follow changes
  nothing, and one that may is the newest then.
-/

namespace MapBallot

theorem Play.before_asymm (p q : Play) (h : p.before q = true) : q.before p = false := by
  simp only [Play.before, decide_eq_true_eq, decide_eq_false_iff_not, UInt64.lt_iff_toNat_lt] at *
  omega

/-- A history is its rounds. -/
theorem History.eq_of_plays {h h' : History} (same : h.plays = h'.plays) : h = h' := by
  obtain ⟨plays, _⟩ := h
  obtain ⟨plays', _⟩ := h'
  obtain rfl : plays = plays' := same
  rfl

theorem History.ofPlays_eq {plays : List Play} (h : plays.Pairwise fun p q => p.before q) :
    (History.ofPlays plays).plays = plays := Ascending.arrange_eq_self Play.before_asymm h

namespace Tracker

variable {t : Tracker} {play : Play}

/-- A round may follow if it is newer than every recorded one. -/
theorem judge_eq_appended_iff :
    t.judge play = .appended ↔ ∀ p ∈ t.history.plays, p.before play = true := by
  unfold judge History.latestIndex? History.latest?
  cases hl : t.history.plays.getLast? with
  | none =>
    rw [List.getLast?_eq_none_iff.1 hl]
    simp
  | some last =>
    obtain ⟨earlier, he⟩ := List.getLast?_eq_some_iff.1 hl
    have ascending := t.history.ascending
    rw [he] at ascending ⊢
    -- The history is ascending, so its last round stands for all of them.
    have newest : (∀ p ∈ earlier ++ [last], p.before play = true) ↔ last.before play = true := by
      constructor
      · exact fun h => h last (by simp)
      · intro h p hp
        rcases List.mem_append.1 hp with hp | hp
        · have older := (List.pairwise_append.1 ascending).2.2 p hp last (List.mem_singleton_self _)
          exact Play.before_trans _ _ _ older h
        · rwa [List.mem_singleton.1 hp]
    rw [newest, Play.before, decide_eq_true_eq]
    dsimp only [Option.map_some]
    by_cases same : play.roundIndex = last.roundIndex
    · simp [same]
    by_cases older : play.roundIndex < last.roundIndex
    · simp [same, older, UInt64.not_lt.2 (UInt64.le_of_lt older)]
    · simp [same, older, UInt64.lt_of_le_of_ne (UInt64.not_lt.1 older) (Ne.symm same)]

/-- A round that may not follow changes nothing. -/
theorem recordPlay_rejected (h : t.judge play ≠ .appended) :
    t.recordPlay play = (t.judge play, t) := by
  unfold recordPlay
  cases hj : t.judge play with
  | appended => exact absurd hj h
  | duplicate => rfl
  | outOfOrder latest => rfl

/-- A round that may follow comes last; the oldest rounds may have to go. -/
theorem plays_recordPlay (h : t.judge play = .appended) :
    (t.recordPlay play).1 = .appended ∧ (t.recordPlay play).2.history.plays =
      (t.history.plays ++ [play]).drop (t.history.plays.length + 1 - t.retention) := by
  have ascending : (t.history.plays ++ [play]).Pairwise fun p q => p.before q = true := by
    refine List.pairwise_append.2 ⟨t.history.ascending, List.pairwise_singleton _ _, ?_⟩
    intro p hp q hq
    rw [List.mem_singleton.1 hq]
    exact judge_eq_appended_iff.1 h p hp
  unfold recordPlay
  rw [h]
  refine ⟨rfl, ?_⟩
  show ((History.ofPlays _).plays.drop _) = _
  rw [History.ofPlays_eq ascending, List.length_append, List.length_singleton]

/-- An appended round is the newest. -/
theorem latest?_recordPlay (h : t.judge play = .appended) :
    (t.recordPlay play).2.history.latest? = some play := by
  unfold History.latest?
  rw [(plays_recordPlay h).2, List.getLast?_drop]
  have kept := t.retention_pos
  rw [if_neg (by rw [List.length_append, List.length_singleton]; omega), List.getLast?_append]
  rfl

end Tracker

end MapBallot
