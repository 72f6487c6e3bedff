import Mathlib.Data.List.Perm.Basic
import MapBallot.Proofs.Scalar.Positive
import MapBallot.Selection.Draw

/-!
# `MapBallot.Proofs.Selection.Draw` — drawing without putting back

What is drawn is told by the words alone: each takes one layer out of the pool, and the next draws from
what is left. So after any number of draws what was drawn and what is left are the pool again, and more
words only draw more. Positive scores, if their sums are positive, can always be drawn from.

## Contents

* `RandomStream.words` — the words that are taken next;
* `Selection.position`, `Selection.picks`, `Selection.left` — what words draw, and what they leave;
* `picks_append`, `picks_append_left_perm` — drawing on, and nothing is lost;
* `total_pos`, `samplingFault?_eq_none` — nothing is wrong with positive scores;
* `eq_picks_of_drawMany`, `drawMany_eq_picks` — draws take one word each.
-/

namespace MapBallot

namespace RandomStream

/-- The next `n` words. -/
def words (s : RandomStream) (n : Nat) : List UInt64 := (List.range n).map fun i => s.word (s.taken + i)

@[simp] theorem length_words (s : RandomStream) (n : Nat) : (s.words n).length = n := by
  simp [words]

theorem words_succ (s : RandomStream) (n : Nat) :
    s.words (n + 1) = s.next.1 :: (s.skip 1).words n := by
  unfold words
  rw [List.range_succ_eq_map, List.map_cons, List.map_map]
  refine congrArg₂ List.cons rfl (List.map_congr_left fun i _ => ?_)
  exact congrArg s.word (by simp only [skip]; omega)

theorem words_add (s : RandomStream) (m n : Nat) :
    s.words (m + n) = s.words m ++ (s.skip m).words n := by
  unfold words
  rw [List.range_add, List.map_append, List.map_map]
  refine congrArg _ (List.map_congr_left fun i _ => ?_)
  exact congrArg s.word (Nat.add_assoc ..).symm

end RandomStream

namespace Selection

variable {α : Type} [Scalar α]

/-! ## What words draw -/

/-- The position that a word draws from a pool. -/
def position (pool : List (Scored α)) (word : UInt64) : Nat :=
  drawIndex (pool.map Scored.score) (Scalar.pick (total (pool.map Scored.score)) word)

/-- What words draw from a pool, one after the other. -/
def picks : List (Scored α) → List UInt64 → List (Scored α)
  | _, [] => []
  | pool, w :: ws => pool[position pool w]?.toList ++ picks (pool.eraseIdx (position pool w)) ws

/-- What words leave of a pool. -/
def left : List (Scored α) → List UInt64 → List (Scored α)
  | pool, [] => pool
  | pool, w :: ws => left (pool.eraseIdx (position pool w)) ws

theorem position_lt {pool : List (Scored α)} (h : pool ≠ []) (word : UInt64) :
    position pool word < pool.length := by
  have some : pool.map Scored.score ≠ [] := mt List.map_eq_nil_iff.1 h
  unfold position
  simpa using drawIndex_lt some (Scalar.pick (total (pool.map Scored.score)) word)

theorem picks_append (pool : List (Scored α)) (ws ws' : List UInt64) :
    picks pool (ws ++ ws') = picks pool ws ++ picks (left pool ws) ws' := by
  induction ws generalizing pool with
  | nil => rfl
  | cons w ws ih => rw [List.cons_append, picks, picks, ih, List.append_assoc, left]

/-- Each word draws a layer, as long as there is one. -/
theorem length_picks {pool : List (Scored α)} {ws : List UInt64} (h : ws.length ≤ pool.length) :
    (picks pool ws).length = ws.length := by
  induction ws generalizing pool with
  | nil => rfl
  | cons w ws ih =>
    have inRange : position pool w < pool.length :=
      position_lt (List.ne_nil_of_length_pos (Nat.lt_of_lt_of_le (Nat.succ_pos _) h)) w
    have smaller : ws.length ≤ (pool.eraseIdx (position pool w)).length := by
      rw [List.length_eraseIdx_of_lt inRange]
      exact Nat.le_sub_one_of_lt h
    rw [picks, List.getElem?_eq_getElem inRange, List.length_append, ih smaller, List.length_cons,
      Option.toList_some, List.length_singleton, Nat.add_comm]

/-- **What was drawn and what is left are the pool**, in another order. -/
theorem picks_append_left_perm (pool : List (Scored α)) (ws : List UInt64) :
    (picks pool ws ++ left pool ws).Perm pool := by
  induction ws generalizing pool with
  | nil => exact .refl pool
  | cons w ws ih =>
    rw [picks, left]
    by_cases inRange : position pool w < pool.length
    · rw [List.getElem?_eq_getElem inRange]
      exact ((ih _).cons _).trans (List.getElem_cons_eraseIdx_perm inRange)
    · rw [List.getElem?_eq_none (Nat.not_lt.1 inRange), List.eraseIdx_of_length_le (Nat.not_lt.1 inRange)]
      exact ih pool

/-! ## Positive scores -/

section

variable [PositiveSums α]

theorem foldl_add_pos {ws : List α} (h : ∀ w ∈ ws, Scalar.lt (Scalar.ofNat 0) w = true) {sum : α}
    (hs : Scalar.lt (Scalar.ofNat 0) sum = true) :
    Scalar.lt (Scalar.ofNat 0) (ws.foldl (· + ·) sum) = true := by
  induction ws generalizing sum with
  | nil => exact hs
  | cons w ws ih =>
    obtain ⟨hw, hws⟩ := List.forall_mem_cons.1 h
    exact ih hws (PositiveSums.add_pos hs hw)

theorem total_pos {ws : List α} (h : ∀ w ∈ ws, Scalar.lt (Scalar.ofNat 0) w = true) (hne : ws ≠ []) :
    Scalar.lt (Scalar.ofNat 0) (total ws) = true := by
  cases ws with
  | nil => exact absurd rfl hne
  | cons w ws =>
    obtain ⟨hw, hws⟩ := List.forall_mem_cons.1 h
    exact foldl_add_pos hws hw

/-- Nothing is wrong with positive scores. -/
theorem samplingFault?_eq_none {ws : List α} (h : ∀ w ∈ ws, Scalar.lt (Scalar.ofNat 0) w = true)
    (hne : ws ≠ []) : samplingFault? ws = none := by
  have valid : ws.all (Scalar.le (Scalar.ofNat 0)) = true :=
    List.all_eq_true.2 fun w hw => PositiveSums.zero_le (h w hw)
  unfold samplingFault?
  rw [if_neg (by simpa using hne), valid, PositiveSums.not_le_zero (total_pos h hne)]
  rfl

end

/-! ## Draws take one word each -/

/-- A draw that is sound takes the next word. -/
theorem drawMany_succ {pool : List (Scored α)} (sound : samplingFault? (pool.map Scored.score) = none)
    (n : Nat) (stream : RandomStream) :
    drawMany (n + 1) pool stream =
      match drawMany n (pool.eraseIdx (position pool stream.next.1)) (stream.skip 1) with
      | (.ok rest, stream') => (.ok (pool[position pool stream.next.1]?.toList ++ rest), stream')
      | (.error fault, stream') => (.error fault, stream') := by
  rw [drawMany, sound]
  rfl

/-- **Draws that succeed take one word each**, whatever scores are computed in. -/
theorem eq_picks_of_drawMany {n : Nat} {pool drawn : List (Scored α)} {stream rest : RandomStream}
    (h : drawMany n pool stream = (.ok drawn, rest)) :
    n ≤ pool.length ∧ drawn = picks pool (stream.words n) ∧ rest = stream.skip n := by
  induction n generalizing pool drawn stream rest with
  | zero =>
    cases h
    exact ⟨Nat.zero_le _, rfl, rfl⟩
  | succ n ih =>
    cases sound : samplingFault? (pool.map Scored.score) with
    | some fault =>
      rw [drawMany, sound] at h
      cases h
    | none =>
      have nonempty : pool ≠ [] := by
        rintro rfl
        cases sound
      rw [drawMany_succ sound] at h
      generalize hd : drawMany n (pool.eraseIdx (position pool stream.next.1)) (stream.skip 1) = result at h
      obtain ⟨_ | others, rest'⟩ := result
      · cases h
      cases h
      obtain ⟨enough, rfl, rfl⟩ := ih hd
      rw [List.length_eraseIdx_of_lt (position_lt nonempty _)] at enough
      have some := List.length_pos_iff.2 nonempty
      refine ⟨by omega, ?_, ?_⟩
      · rw [RandomStream.words_succ, picks]
      · rw [RandomStream.skip_skip, Nat.add_comm]

/-- **Draws from a pool that is large enough succeed**, if its scores are positive. -/
theorem drawMany_eq_picks [PositiveSums α] {n : Nat} {pool : List (Scored α)} (hn : n ≤ pool.length)
    (positive : ∀ s ∈ pool, Scalar.lt (Scalar.ofNat 0) s.score = true) (stream : RandomStream) :
    drawMany n pool stream = (.ok (picks pool (stream.words n)), stream.skip n) := by
  induction n generalizing pool stream with
  | zero => rfl
  | succ n ih =>
    have nonempty : pool ≠ [] := List.ne_nil_of_length_pos (Nat.lt_of_lt_of_le (Nat.succ_pos n) hn)
    have sound : samplingFault? (pool.map Scored.score) = none :=
      samplingFault?_eq_none (by simpa using positive) (mt List.map_eq_nil_iff.1 nonempty)
    have smaller : n ≤ (pool.eraseIdx (position pool stream.next.1)).length := by
      rw [List.length_eraseIdx_of_lt (position_lt nonempty _)]
      exact Nat.le_sub_one_of_lt hn
    rw [drawMany_succ sound, ih smaller fun s hs => positive s (List.mem_of_mem_eraseIdx hs),
      RandomStream.words_succ, picks, RandomStream.skip_skip, Nat.add_comm 1 n]

end Selection

end MapBallot
