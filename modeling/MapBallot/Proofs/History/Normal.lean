import Mathlib.Data.Finset.Card
import MapBallot.Proofs.Ascending
import MapBallot.Proofs.History.Runs

/-!
# `MapBallot.Proofs.History.Normal` — the history of some records

A history is made of records that may come in any order and may repeat rounds. Each round keeps its first
record, and of the rounds only the newest are kept. So the order of the records matters for records of one
round alone, and nothing changes when a history is made of the records of a history once more.

## Contents

* `mem_ofPlays_iff` — each round keeps its first record;
* `sortedByRound`, `sortedByRound_eq` — sorting the records and dropping repetitions;
* `rounds`, `length_ofPlays` — there is one record for each round;
* `Kept`, `kept_ofRecent` — what a history of limited size keeps of some records;
* `ofRecent_ofRecent` — keeping less of what was kept;
* `Reordered`, `ofRecent_reordered` — records in another order.
-/

namespace MapBallot

open Ascending (ByKey sameKey)

theorem Play.byKey_before : ByKey Play.before where
  asymm := Play.before_asymm
  between p q r h := by
    simp only [Play.before, decide_eq_true_eq, UInt64.lt_iff_toNat_lt] at h ⊢
    omega

theorem Play.sameKey_before (p q : Play) :
    sameKey Play.before p q = (q.roundIndex == p.roundIndex) := by
  rw [Bool.eq_iff_iff, Ascending.sameKey_eq_true_iff, beq_iff_eq]
  simp only [Play.before, decide_eq_false_iff_not, UInt64.not_lt]
  constructor
  · rintro ⟨notBefore, notAfter⟩
    exact UInt64.le_antisymm notBefore notAfter
  · intro same
    rw [same]
    exact ⟨UInt64.le_refl _, UInt64.le_refl _⟩

namespace History

variable {ps ps' : List Play}

/-! ## All rounds -/

/-- **Each round keeps its first record.** -/
theorem mem_ofPlays_iff {p : Play} :
    p ∈ (ofPlays ps).plays ↔ ps.find? (·.roundIndex == p.roundIndex) = some p := by
  have first : p ∈ (ofPlays ps).plays ↔ _ := Ascending.mem_arrange_iff Play.byKey_before
  rwa [funext (Play.sameKey_before p)] at first

/-- No round is lost. -/
theorem exists_mem_ofPlays {q : Play} (hq : q ∈ ps) :
    ∃ p ∈ (ofPlays ps).plays, p.roundIndex = q.roundIndex := by
  cases found : ps.find? (·.roundIndex == q.roundIndex) with
  | none => exact absurd (List.find?_eq_none.1 found q hq) (by simp)
  | some p =>
    have same : p.roundIndex = q.roundIndex := by simpa using List.find?_some found
    exact ⟨p, mem_ofPlays_iff.2 (same ▸ found), same⟩

/-- The records sorted by their rounds, each one dropped that is of the round of the one before it. -/
def sortedByRound (ps : List Play) : List Play :=
  (ps.mergeSort fun p q => decide (p.roundIndex ≤ q.roundIndex)).destutter
    fun p q => p.roundIndex ≠ q.roundIndex

theorem sortedByRound_eq (ps : List Play) : sortedByRound ps = (ofPlays ps).plays := by
  have notAfter : ∀ p q : Play, decide (p.roundIndex ≤ q.roundIndex) = !q.before p := by
    intro p q
    rw [Play.before, ← decide_not]
    exact decide_eq_decide.2 UInt64.not_lt.symm
  have apart : ∀ p q : Play, p.roundIndex ≠ q.roundIndex ↔ sameKey Play.before p q = false := by
    intro p q
    rw [Play.sameKey_before, beq_eq_false_iff_ne]
    exact ne_comm
  exact Ascending.destutter_mergeSort Play.byKey_before notAfter apart ps

/-- The rounds of some records. -/
def rounds (ps : List Play) : Finset UInt64 := (ps.map Play.roundIndex).toFinset

theorem mem_rounds {i : UInt64} : i ∈ rounds ps ↔ ∃ p ∈ ps, p.roundIndex = i := by
  simp [rounds]

theorem increasing (h : History) : h.plays.Pairwise fun p q => p.roundIndex < q.roundIndex :=
  h.ascending.imp fun before => by simpa [Play.before] using before

/-- There is one record for each round. -/
theorem length_ofPlays (ps : List Play) : (ofPlays ps).plays.length = (rounds ps).card := by
  have distinct : ((ofPlays ps).plays.map Play.roundIndex).Nodup :=
    List.pairwise_map.2 ((ofPlays ps).increasing.imp UInt64.ne_of_lt)
  have same : rounds (ofPlays ps).plays = rounds ps := by
    ext i
    rw [mem_rounds, mem_rounds]
    constructor
    · rintro ⟨p, hp, rfl⟩
      exact ⟨p, List.mem_of_find?_eq_some (mem_ofPlays_iff.1 hp), rfl⟩
    · rintro ⟨q, hq, rfl⟩
      exact exists_mem_ofPlays hq
  rw [← same, rounds, List.toFinset_card_of_nodup distinct, List.length_map]

/-! ## The newest rounds -/

/-- What is kept of some records when `retention` rounds may be. -/
structure Kept (ps : List Play) (retention : Nat) (h : History) : Prop where
  increasing : h.plays.Pairwise fun p q => p.roundIndex < q.roundIndex
  /-- Of several records of one round it is the first, as it is. -/
  first : ∀ p ∈ h.plays, ps.find? (·.roundIndex == p.roundIndex) = some p
  size : h.plays.length = min retention (rounds ps).card
  /-- Every round that is not kept is older than those that are. -/
  newest : ∀ p ∈ h.plays, ∀ i ∈ rounds ps, i ∉ rounds h.plays → i < p.roundIndex
  /-- They are the last ones when the records are sorted and repetitions are dropped. -/
  sorted : h.plays = (sortedByRound ps).rtake retention

theorem plays_ofRecent (ps : List Play) (retention : Nat) :
    (ofRecent ps retention).plays = (ofPlays ps).plays.rtake retention := rfl

/-- **Of some records, the newest rounds are kept**, each with its first record. -/
theorem kept_ofRecent (ps : List Play) (retention : Nat) : Kept ps retention (ofRecent ps retention) where
  increasing := (ofRecent ps retention).increasing
  first := fun _ hp => mem_ofPlays_iff.1 (List.mem_of_mem_drop hp)
  size := by
    rw [plays_ofRecent, List.rtake, List.length_drop, length_ofPlays]
    omega
  newest := by
    intro p hp i known dropped
    obtain ⟨q, hq, rfl⟩ := mem_rounds.1 known
    obtain ⟨r, hr, same⟩ := exists_mem_ofPlays hq
    -- The first record of that round is in front of all that are kept.
    have parts := List.take_append_drop ((ofPlays ps).plays.length - retention) (ofPlays ps).plays
    have older : r ∈ (ofPlays ps).plays.take ((ofPlays ps).plays.length - retention) := by
      rw [← parts] at hr
      refine (List.mem_append.1 hr).resolve_right fun kept => dropped ?_
      exact mem_rounds.2 ⟨r, kept, same⟩
    have ascending := (ofPlays ps).increasing
    rw [← parts] at ascending
    rw [← same]
    exact (List.pairwise_append.1 ascending).2.2 r older p hp
  sorted := by rw [sortedByRound_eq, plays_ofRecent]

/-- **Keeping less of what was kept** is keeping less from the start. -/
theorem ofRecent_ofRecent (ps : List Play) (m n : Nat) :
    ofRecent (ofRecent ps m).plays n = ofRecent ps (min m n) := by
  refine eq_of_plays ?_
  rw [plays_ofRecent, ofPlays_eq (ofRecent ps m).ascending, plays_ofRecent, plays_ofRecent, rtake_rtake,
    Nat.min_comm]

/-! ## Other orders -/

/-- The same records in another order, in which those of one round follow each other as they did. -/
structure Reordered (ps ps' : List Play) : Prop where
  perm : ps'.Perm ps
  rounds : ∀ p ∈ ps, ps'.filter (·.roundIndex == p.roundIndex) = ps.filter (·.roundIndex == p.roundIndex)

theorem Reordered.filter_eq (h : Reordered ps ps') (i : UInt64) :
    ps'.filter (·.roundIndex == i) = ps.filter (·.roundIndex == i) := by
  by_cases known : ∃ p ∈ ps, p.roundIndex = i
  · obtain ⟨p, hp, rfl⟩ := known
    exact h.rounds p hp
  · push Not at known
    have none : ps.filter (·.roundIndex == i) = [] :=
      List.filter_eq_nil_iff.2 fun p hp => by simpa using known p hp
    have perm := h.perm.filter (·.roundIndex == i)
    rw [none] at perm ⊢
    exact perm.eq_nil

/-- **The order of records matters for those of one round alone.** -/
theorem ofRecent_reordered (h : Reordered ps ps') (retention : Nat) :
    ofRecent ps' retention = ofRecent ps retention := by
  have first (i : UInt64) : ps'.find? (·.roundIndex == i) = ps.find? (·.roundIndex == i) := by
    rw [← List.head?_filter, ← List.head?_filter, h.filter_eq]
  have all : (ofPlays ps').plays = (ofPlays ps).plays := by
    refine Play.byKey_before.eq_of_mem_iff (ofPlays ps').ascending (ofPlays ps).ascending fun p => ?_
    rw [mem_ofPlays_iff, mem_ofPlays_iff, first]
  refine eq_of_plays ?_
  rw [plays_ofRecent, plays_ofRecent, all]

end History

end MapBallot
