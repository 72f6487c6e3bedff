import Mathlib.Order.WithBot
import MapBallot.Proofs.History.Runs

/-!
# `MapBallot.Proofs.History.Recency` — how recency moves

What was never played is less recent than anything that was. A round makes everything else less recent:
the rounds since a play are counted from the newest round, and a play that is evicted is forgotten, so that
it counts as never played.

## Contents

* the order of `Recency`, with `never` on top;
* `recencyWhere_eq_rounds_zero_iff` — what was played in the newest round;
* `recencyWhere_le_recordPlay`, `recencyWhere_le_after` — recency after other rounds.
-/

namespace MapBallot

namespace Recency

/-- The number of rounds, with nothing beyond `never`. -/
def toTop : Recency → WithTop Nat
  | .rounds n => WithTop.some n
  | .never => ⊤

theorem toTop_injective : Function.Injective toTop := by
  intro r r' h
  cases r <;> cases r' <;> simp_all [toTop]

/-- What was played longer ago is greater, and what never was is the greatest. -/
instance : PartialOrder Recency := PartialOrder.lift toTop toTop_injective

@[simp] theorem rounds_le_rounds_iff {m n : Nat} : rounds m ≤ rounds n ↔ m ≤ n :=
  WithTop.coe_le_coe

@[simp] theorem le_never (r : Recency) : r ≤ never := le_top (α := WithTop Nat)

@[simp] theorem not_never_le_rounds {n : Nat} : ¬ never ≤ rounds n :=
  WithTop.not_top_le_coe n

end Recency

namespace History

variable {p : Play → Bool}

@[simp] theorem recencyWhere_empty : empty.recencyWhere p = .never := rfl

/-- What is selected was played in the newest round if the newest round is selected: every other one has a
smaller index. -/
theorem recencyWhere_eq_rounds_zero_iff {h : History} :
    h.recencyWhere p = .rounds 0 ↔ ∃ newest, h.latest? = some newest ∧ p newest = true := by
  unfold recencyWhere latest?
  cases last? : h.plays.getLast? with
  | none => simp
  | some newest =>
    obtain ⟨earlier, split⟩ := List.getLast?_eq_some_iff.1 last?
    have ascending := h.ascending
    rw [split] at ascending ⊢
    rw [List.reverse_append, List.reverse_singleton, List.singleton_append]
    by_cases selected : p newest = true
    · simp [List.find?_cons_of_pos selected, selected]
    · rw [List.find?_cons_of_neg selected]
      cases found : earlier.reverse.find? p with
      | none => simp [selected]
      | some play =>
        have older : play.before newest = true := (List.pairwise_append.1 ascending).2.2 play
          (List.mem_reverse.1 (List.mem_of_find?_eq_some found)) newest (List.mem_singleton_self _)
        rw [Play.before, decide_eq_true_eq, UInt64.lt_iff_toNat_lt] at older
        have apart : newest.roundIndex.toNat - play.roundIndex.toNat ≠ 0 := Nat.sub_ne_zero_of_lt older
        simpa [selected, Nat.sub_eq_zero_iff_le] using apart

end History

namespace Tracker

variable {p : Play → Bool} {play : Play}

/-- **A round that is not selected makes what is selected less recent**, or leaves it as recent as it was. It
is newer than the newest one, from which the rounds were counted, and what it evicts counts as never
played. -/
theorem recencyWhere_le_recordPlay (t : Tracker) (other : p play = false) :
    t.history.recencyWhere p ≤ (t.recordPlay play).2.history.recencyWhere p := by
  by_cases follows : t.judge play = .appended
  · unfold History.recencyWhere
    rw [latest?_recordPlay follows, plays_recordPlay_eq_rtake follows]
    cases found : ((t.history.plays ++ [play]).rtake t.retention).reverse.find? p with
    | none => exact Recency.le_never _
    | some old =>
      -- What is still found was found before, and the newest round then was older.
      have before : t.history.plays.reverse.find? p = some old := by
        rw [List.rtake_eq_reverse_take_reverse, List.reverse_reverse, List.reverse_append] at found
        have whole := (List.take_prefix t.retention _).find?_eq_some found
        rwa [List.reverse_singleton, List.singleton_append, List.find?_cons_of_neg (by simp [other])] at whole
      have kept : old ∈ t.history.plays := List.mem_reverse.1 (List.mem_of_find?_eq_some before)
      obtain ⟨newest, last?⟩ := Option.isSome_iff_exists.1 (List.getLast?_isSome.2 (List.ne_nil_of_mem kept))
      have newer := judge_eq_appended_iff.1 follows newest (List.mem_of_getLast? last?)
      rw [Play.before, decide_eq_true_eq, UInt64.lt_iff_toNat_lt] at newer
      rw [before, History.latest?, last?, Recency.rounds_le_rounds_iff]
      omega
  · rw [recordPlay_rejected follows]

/-- A run without a round that is selected makes what is selected less recent. -/
theorem recencyWhere_le_after {t : Tracker} {plays : List Play} (others : ∀ play ∈ plays, p play = false) :
    t.history.recencyWhere p ≤ (t.after plays).history.recencyWhere p := by
  induction plays generalizing t with
  | nil => exact le_rfl
  | cons play plays ih =>
    obtain ⟨first, rest⟩ := List.forall_mem_cons.1 others
    exact (recencyWhere_le_recordPlay t first).trans (ih rest)

end Tracker

end MapBallot
