import Mathlib.Data.List.DropRight
import MapBallot.Proofs.History.Tracker

/-!
# `MapBallot.Proofs.History.Runs` — a tracker over a whole run

A tracker compares a round with the newest one that it holds and with nothing else, and whenever it
appends one, it arranges and truncates all that it holds. This module states what that comes to over a
whole run: the rounds that are appended are those that are newer than everything that was to be recorded
before them, refused and evicted rounds included, and the history is made of the last of them.

## Contents

* `rtake_eq_self`, `length_rtake_le`, `rtake_rtake`, `rtake_append_rtake` — the last entries of a list;
* `IsLatest` — the newest index among some rounds; `History.latestIndex?_eq_some_iff`;
* `judge_eq_appended_iff_latest`, `judge_eq_duplicate_iff`, `judge_eq_outOfOrder_iff` — what becomes of a
  round, by the newest index of the history;
* `Tracker.after`, `Tracker.appended`, `Tracker.shown` — rounds recorded one after the other;
* `latestIndex?_after`, `plays_after` — what the history knows of a run, and what it is made of;
* `RunLaw`, `record_run` — what holds after every run.
-/

namespace MapBallot

/-! ## The last entries of a list -/

section

variable {α : Type}

theorem rtake_eq_self {l : List α} {n : Nat} (h : l.length ≤ n) : l.rtake n = l := by
  rw [List.rtake, Nat.sub_eq_zero_of_le h, List.drop_zero]

theorem length_rtake_le (l : List α) (n : Nat) : (l.rtake n).length ≤ n := by
  rw [List.rtake, List.length_drop]
  omega

theorem rtake_rtake (l : List α) (m n : Nat) : (l.rtake m).rtake n = l.rtake (min n m) := by
  simp only [List.rtake_eq_reverse_take_reverse, List.reverse_reverse, List.take_take]

/-- What is not among the last entries does not come back to them. -/
theorem rtake_append_rtake (l l' : List α) (n : Nat) :
    (l.rtake n ++ l').rtake n = (l ++ l').rtake n := by
  simp only [List.rtake_eq_reverse_take_reverse, List.reverse_append, List.reverse_reverse,
    List.take_append, List.take_take, Nat.min_eq_left (Nat.sub_le n l'.reverse.length)]

end

/-! ## The newest index among some rounds -/

/-- `latest` is the newest index among some rounds. -/
def IsLatest (latest : UInt64) (ps : List Play) : Prop :=
  (∃ p ∈ ps, p.roundIndex = latest) ∧ ∀ p ∈ ps, p.roundIndex ≤ latest

section

variable {ps : List Play} {p : Play} {latest : UInt64}

theorem exists_isLatest (h : ps ≠ []) : ∃ latest, IsLatest latest ps := by
  induction ps with
  | nil => exact absurd rfl h
  | cons p ps ih =>
    rcases ps with _ | ⟨q, qs⟩
    · exact ⟨p.roundIndex, ⟨p, by simp⟩, by simp⟩
    · obtain ⟨latest, ⟨r, hr, rfl⟩, newest⟩ := ih (List.cons_ne_nil q qs)
      rcases UInt64.le_total p.roundIndex r.roundIndex with older | newer
      · exact ⟨r.roundIndex, ⟨r, List.mem_cons_of_mem p hr, rfl⟩, List.forall_mem_cons.2 ⟨older, newest⟩⟩
      · refine ⟨p.roundIndex, ⟨p, List.mem_cons_self, rfl⟩, List.forall_mem_cons.2 ⟨?_, ?_⟩⟩
        · exact UInt64.le_refl _
        · exact fun q hq => UInt64.le_trans (newest q hq) newer

theorem IsLatest.unique {latest' : UInt64} (h : IsLatest latest ps) (h' : IsLatest latest' ps) :
    latest = latest' := by
  obtain ⟨⟨p, hp, rfl⟩, newest⟩ := h
  obtain ⟨⟨q, hq, rfl⟩, newest'⟩ := h'
  exact UInt64.le_antisymm (newest' p hp) (newest q hq)

/-- A round is newer than all of them if it is newer than the newest. -/
theorem forall_lt_iff_isLatest :
    (∀ q ∈ ps, q.roundIndex < p.roundIndex) ↔ ∀ latest, IsLatest latest ps → latest < p.roundIndex := by
  constructor
  · rintro newer _ ⟨⟨q, hq, rfl⟩, _⟩
    exact newer q hq
  · intro newer q hq
    obtain ⟨latest, isLatest⟩ := exists_isLatest (List.ne_nil_of_mem hq)
    exact UInt64.lt_of_le_of_lt (isLatest.2 q hq) (newer latest isLatest)

/-- A round that is newer than all before it is the newest. -/
theorem isLatest_concat_of_newer (newer : ∀ q ∈ ps, q.roundIndex < p.roundIndex) :
    IsLatest p.roundIndex (ps ++ [p]) := by
  refine ⟨⟨p, by simp, rfl⟩, fun q hq => ?_⟩
  rcases List.mem_append.1 hq with earlier | last
  · exact UInt64.le_of_lt (newer q earlier)
  · rw [List.mem_singleton.1 last]
    exact UInt64.le_refl _

/-- A round that is not newer than the newest one leaves it the newest. -/
theorem IsLatest.concat (h : IsLatest latest ps) (older : p.roundIndex ≤ latest) :
    IsLatest latest (ps ++ [p]) := by
  obtain ⟨⟨q, hq, same⟩, newest⟩ := h
  refine ⟨⟨q, List.mem_append_left _ hq, same⟩, fun r hr => ?_⟩
  rcases List.mem_append.1 hr with earlier | last
  · exact newest r earlier
  · rwa [List.mem_singleton.1 last]

end

/-- The newest round of a history has the newest index. -/
theorem History.latestIndex?_eq_some_iff {h : History} {latest : UInt64} :
    h.latestIndex? = some latest ↔ IsLatest latest h.plays := by
  unfold latestIndex? latest?
  cases last? : h.plays.getLast? with
  | none =>
    rw [List.getLast?_eq_none_iff.1 last?]
    simp [IsLatest]
  | some last =>
    obtain ⟨earlier, split⟩ := List.getLast?_eq_some_iff.1 last?
    have isLatest : IsLatest last.roundIndex h.plays := by
      have ascending := h.ascending
      rw [split] at ascending ⊢
      refine isLatest_concat_of_newer fun q hq => ?_
      simpa [Play.before] using (List.pairwise_append.1 ascending).2.2 q hq last (by simp)
    rw [Option.map_some, Option.some_inj]
    exact ⟨fun same => same ▸ isLatest, isLatest.unique⟩

namespace Tracker

/-! ## What becomes of a round -/

section

variable {t : Tracker} {p : Play} {latest : UInt64}

theorem judge_eq_appended_iff_latest :
    t.judge p = .appended ↔ ∀ latest, t.history.latestIndex? = some latest → latest < p.roundIndex := by
  unfold judge
  cases t.history.latestIndex? with
  | none => simp
  | some latest =>
    by_cases same : p.roundIndex = latest
    · simp [same]
    by_cases older : p.roundIndex < latest
    · simp [same, older, UInt64.not_lt.2 (UInt64.le_of_lt older)]
    · simp [same, older, UInt64.lt_of_le_of_ne (UInt64.not_lt.1 older) (Ne.symm same)]

theorem judge_eq_duplicate_iff :
    t.judge p = .duplicate ↔ t.history.latestIndex? = some p.roundIndex := by
  unfold judge
  cases t.history.latestIndex? with
  | none => simp
  | some latest =>
    by_cases same : p.roundIndex = latest
    · simp [same]
    by_cases older : p.roundIndex < latest <;> simp [same, older, Ne.symm same]

theorem judge_eq_outOfOrder_iff :
    t.judge p = .outOfOrder latest ↔
      t.history.latestIndex? = some latest ∧ p.roundIndex < latest := by
  unfold judge
  cases t.history.latestIndex? with
  | none => simp
  | some found =>
    by_cases same : p.roundIndex = found
    · subst same
      simp only [if_true, reduceCtorEq, false_iff, Option.some_inj, not_and]
      rintro rfl
      exact UInt64.lt_irrefl _
    by_cases older : p.roundIndex < found
    · simp only [same, older, if_true, if_false, RecordOutcome.outOfOrder.injEq, Option.some_inj]
      constructor
      · rintro rfl
        exact ⟨rfl, older⟩
      · exact And.left
    · simp only [same, older, if_false, reduceCtorEq, false_iff, Option.some_inj, not_and]
      rintro rfl
      exact older

/-- What a recording answers is what the tracker judged. -/
theorem recordPlay_fst : (t.recordPlay p).1 = t.judge p := by
  by_cases h : t.judge p = .appended
  · rw [(plays_recordPlay h).1, h]
  · rw [recordPlay_rejected h]

theorem retention_recordPlay : (t.recordPlay p).2.retention = t.retention := by
  unfold recordPlay
  cases t.judge p <;> rfl

/-- The last rounds are kept, and among them the one that was appended. -/
theorem plays_recordPlay_eq_rtake (h : t.judge p = .appended) :
    (t.recordPlay p).2.history.plays = (t.history.plays ++ [p]).rtake t.retention := by
  rw [(plays_recordPlay h).2, List.rtake, List.length_append, List.length_singleton]

end

/-! ## Runs -/

/-- The tracker after some rounds were recorded, one after the other. -/
def after (t : Tracker) (ps : List Play) : Tracker := ps.foldl (fun t p => (t.recordPlay p).2) t

/-- The rounds that are appended in a run. -/
def appended (t : Tracker) : List Play → List Play
  | [] => []
  | p :: ps =>
    let (outcome, next) := t.recordPlay p
    if outcome = .appended then p :: next.appended ps else next.appended ps

/-- The histories that are shown in a run, before and after each round. -/
def shown (t : Tracker) : List Play → List History
  | [] => [t.history]
  | p :: ps => t.history :: (t.recordPlay p).2.shown ps

section

variable {t : Tracker}

theorem after_concat (t : Tracker) (ps : List Play) (p : Play) :
    t.after (ps ++ [p]) = ((t.after ps).recordPlay p).2 := by
  rw [after, List.foldl_append]
  rfl

theorem appended_concat (t : Tracker) (ps : List Play) (p : Play) :
    t.appended (ps ++ [p]) =
      t.appended ps ++ if (t.after ps).judge p = .appended then [p] else [] := by
  induction ps generalizing t with
  | nil =>
    by_cases h : t.judge p = .appended <;> simp [appended, after, recordPlay_fst, h]
  | cons q qs ih =>
    have later := ih (t.recordPlay q).2
    simp only [List.cons_append, appended, later]
    by_cases h : (t.recordPlay q).1 = .appended
    · rw [if_pos h, if_pos h]
      rfl
    · rw [if_neg h, if_neg h]
      rfl

theorem retention_after (t : Tracker) (ps : List Play) : (t.after ps).retention = t.retention := by
  induction ps using List.reverseRecOn with
  | nil => rfl
  | append_singleton ps p ih => rw [after_concat, retention_recordPlay, ih]

/-- **The newest round of a history is the newest of the whole run**, whether rounds were refused or
evicted. -/
theorem latestIndex?_after (t : Tracker) (ps : List Play) (latest : UInt64) :
    (t.after ps).history.latestIndex? = some latest ↔ IsLatest latest (t.history.plays ++ ps) := by
  induction ps using List.reverseRecOn generalizing latest with
  | nil => simpa [after] using History.latestIndex?_eq_some_iff
  | append_singleton ps p ih =>
    rw [after_concat, ← List.append_assoc]
    by_cases h : (t.after ps).judge p = .appended
    · have newest : IsLatest p.roundIndex (t.history.plays ++ ps ++ [p]) := by
        refine isLatest_concat_of_newer (forall_lt_iff_isLatest.2 fun latest isLatest => ?_)
        exact judge_eq_appended_iff_latest.1 h latest ((ih latest).2 isLatest)
      rw [History.latestIndex?, latest?_recordPlay h, Option.map_some, Option.some_inj]
      exact ⟨fun same => same ▸ newest, newest.unique⟩
    · -- A round is refused only if it is not newer than the newest one.
      obtain ⟨found, isLatest, older⟩ : ∃ found, IsLatest found (t.history.plays ++ ps) ∧
          p.roundIndex ≤ found := by
        rw [judge_eq_appended_iff_latest] at h
        push Not at h
        obtain ⟨found, known, older⟩ := h
        exact ⟨found, (ih found).1 known, UInt64.not_lt.1 older⟩
      rw [recordPlay_rejected h, ih]
      exact ⟨fun again => again.unique isLatest ▸ isLatest.concat older,
        fun again => again.unique (isLatest.concat older) ▸ isLatest⟩

/-- **The history is made of the last rounds that were appended.** -/
theorem plays_after (fits : t.history.plays.length ≤ t.retention) (ps : List Play) :
    (t.after ps).history.plays = (t.history.plays ++ t.appended ps).rtake t.retention := by
  induction ps using List.reverseRecOn with
  | nil => simpa [after, appended] using (rtake_eq_self fits).symm
  | append_singleton ps p ih =>
    rw [after_concat, appended_concat]
    by_cases h : (t.after ps).judge p = .appended
    · rw [plays_recordPlay_eq_rtake h, retention_after, ih, if_pos h, rtake_append_rtake,
        List.append_assoc]
    · rw [recordPlay_rejected h, ih, if_neg h, List.append_nil]

theorem appended_sublist (t : Tracker) (ps : List Play) : (t.appended ps).Sublist ps := by
  induction ps generalizing t with
  | nil => exact .slnil
  | cons p ps ih =>
    simp only [appended]
    split
    · exact (ih _).cons_cons p
    · exact (ih _).cons p

/-- A round is appended if it is newer than the whole run before it. -/
theorem judge_after_eq_appended_iff {ps : List Play} {p : Play} :
    (t.after ps).judge p = .appended ↔ ∀ q ∈ t.history.plays ++ ps, q.roundIndex < p.roundIndex := by
  simp only [judge_eq_appended_iff_latest, latestIndex?_after, forall_lt_iff_isLatest]

/-- The rounds that are appended come in ascending order. -/
theorem appended_ascending (t : Tracker) (ps : List Play) :
    (t.history.plays ++ t.appended ps).Pairwise fun p q => p.roundIndex < q.roundIndex := by
  induction ps using List.reverseRecOn with
  | nil => simpa [appended, Play.before] using t.history.ascending
  | append_singleton ps p ih =>
    rw [appended_concat]
    split
    · rename_i h
      rw [← List.append_assoc, List.pairwise_append]
      refine ⟨ih, List.pairwise_singleton _ _, fun q hq r hr => ?_⟩
      rw [List.mem_singleton.1 hr]
      refine judge_after_eq_appended_iff.1 h q ?_
      exact ((List.Sublist.refl _).append (t.appended_sublist ps)).mem hq
    · rwa [List.append_nil]

theorem shown_prefix (t : Tracker) (ps more : List Play) : t.shown ps <+: t.shown (ps ++ more) := by
  induction ps generalizing t with
  | nil => cases more <;> simp [shown]
  | cons p ps ih => exact List.cons_prefix_cons.2 ⟨rfl, ih _⟩

/-- An appended round comes last, and for it at most the oldest one has to go. -/
theorem recordPlay_grows (fits : t.history.plays.length ≤ t.retention) {p : Play}
    (h : t.judge p = .appended) :
    ∃ evicted kept, evicted.length ≤ 1 ∧ t.history.plays = evicted ++ kept ∧
      (t.recordPlay p).2.history.plays = kept ++ [p] := by
  obtain ⟨room, enough⟩ := Nat.exists_eq_add_one.2 t.retention_pos
  refine ⟨t.history.plays.take (t.history.plays.length - room), t.history.plays.rtake room, ?_, ?_, ?_⟩
  · rw [List.length_take]
    omega
  · exact (List.take_append_drop _ _).symm
  · rw [plays_recordPlay_eq_rtake h, enough, List.rtake_concat_succ]

end

/-- **What holds after every run** `ps` of a tracker that was to keep `retention` rounds. -/
structure RunLaw (retention : Nat) (ps : List Play) (t : Tracker) : Prop where
  /-- A round is appended if it is newer than the whole run before it. -/
  appended (p : Play) : (t.recordPlay p).1 = .appended ↔ ∀ q ∈ ps, q.roundIndex < p.roundIndex
  /-- It is a duplicate if its index is the newest of the run. -/
  duplicate (p : Play) : (t.recordPlay p).1 = .duplicate ↔ IsLatest p.roundIndex ps
  /-- Else it comes too late, and the answer names the newest index of the run. -/
  outOfOrder (p : Play) (latest : UInt64) :
    (t.recordPlay p).1 = .outOfOrder latest ↔ IsLatest latest ps ∧ p.roundIndex < latest
  /-- A round that is not appended changes nothing. -/
  rejected (p : Play) (h : (t.recordPlay p).1 ≠ .appended) : (t.recordPlay p).2 = t
  /-- The history is made of the last rounds that were appended, oldest first. -/
  plays : t.history.plays = ((withRetention retention).appended ps).rtake (max retention 1)
  increasing : t.history.plays.Pairwise fun p q => p.roundIndex < q.roundIndex
  /-- A round that is appended comes last, and for it at most the oldest one has to go. -/
  grown (p : Play) (h : (t.recordPlay p).1 = .appended) :
    ∃ evicted kept, evicted.length ≤ 1 ∧ t.history.plays = evicted ++ kept ∧
      (t.recordPlay p).2.history.plays = kept ++ [p]
  /-- What was shown during the run stays as it was, whatever is recorded later. -/
  shown (more : List Play) :
    (withRetention retention).shown ps <+: (withRetention retention).shown (ps ++ more)

/-- **A tracker over a whole run.** Whatever was to be recorded: a round is appended if it is newer than
everything before it, and the history is made of the last rounds that were appended. -/
theorem record_run (retention : Nat) (ps : List Play) :
    RunLaw retention ps ((withRetention retention).after ps) := by
  have latest (i : UInt64) :
      ((withRetention retention).after ps).history.latestIndex? = some i ↔ IsLatest i ps :=
    latestIndex?_after _ ps i
  have plays : ((withRetention retention).after ps).history.plays =
      ((withRetention retention).appended ps).rtake (max retention 1) :=
    plays_after (Nat.zero_le _) ps
  refine
    { appended := fun p => ?appended
      duplicate := fun p => ?duplicate
      outOfOrder := fun p i => ?outOfOrder
      rejected := fun p h => ?rejected
      plays := plays
      increasing := ?increasing
      grown := fun p h => recordPlay_grows ?fits (recordPlay_fst.symm.trans h)
      shown := shown_prefix _ ps }
  case appended =>
    rw [recordPlay_fst]
    exact judge_after_eq_appended_iff
  case duplicate => rw [recordPlay_fst, judge_eq_duplicate_iff, latest]
  case outOfOrder => rw [recordPlay_fst, judge_eq_outOfOrder_iff, latest]
  case rejected =>
    rw [recordPlay_fst] at h
    rw [recordPlay_rejected h]
  case increasing =>
    rw [plays]
    exact ((withRetention retention).appended_ascending ps).sublist (List.drop_sublist _ _)
  case fits =>
    rw [plays, retention_after]
    exact length_rtake_le _ _

/-- Of the rounds 4, 4, 7, 5 and 9, the rounds 4, 7 and 9 are appended, and the last two are kept. -/
example :
    ((withRetention 2).after ([4, 4, 7, 5, 9].map fun i => ⟨"foy", .day, i, none, .epoch⟩)).history.plays =
      [7, 9].map fun i => ⟨"foy", .day, i, none, .epoch⟩ := by
  decide

end Tracker

end MapBallot
