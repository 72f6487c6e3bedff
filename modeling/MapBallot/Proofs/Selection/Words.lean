import Mathlib.Algebra.Ring.Nat
import MapBallot.Proofs.Selection.Chosen

/-!
# `MapBallot.Proofs.Selection.Words` — which words a choice takes

A choice takes one random word for each layer, in the order in which the layers are chosen, and what it
chooses is what these words draw: of all layers that can be drawn, or, for a plan, of those of one mode
after the other.

## Contents

* `picks_words_eq_take` — fewer words draw the beginning of what more words draw;
* `getElem?_picks_words` — each word draws from what those before it leave;
* `planPicks` — what words draw for several modes; `filter_planPicks` — for some of them;
* `eq_picks_of_select`, `eq_planPicks_of_selectPlan` — what a choice draws and takes.
-/

namespace MapBallot

open Weighting (Parameters)

variable {α : Type} [Scalar α]

namespace Selection

theorem mem_of_mem_picks {pool : List (Scored α)} {ws : List UInt64} {s : Scored α}
    (h : s ∈ picks pool ws) : s ∈ pool :=
  (picks_append_left_perm pool ws).subset (List.mem_append_left _ h)

theorem length_picks_words {pool : List (Scored α)} {n : Nat} (h : n ≤ pool.length)
    (stream : RandomStream) : (picks pool (stream.words n)).length = n := by
  rw [length_picks (by simpa using h), RandomStream.length_words]

/-- Fewer words draw the beginning of what more words draw. -/
theorem picks_words_eq_take {pool : List (Scored α)} {n m : Nat} (h : n ≤ m) (hm : m ≤ pool.length)
    (stream : RandomStream) :
    picks pool (stream.words n) = (picks pool (stream.words m)).take n := by
  obtain ⟨k, rfl⟩ := Nat.exists_eq_add_of_le h
  rw [RandomStream.words_add, picks_append,
    List.take_left' (length_picks_words (Nat.le_trans h hm) stream)]

/-- Each word draws from what those before it leave. -/
theorem getElem?_picks_words {pool : List (Scored α)} {n k : Nat} (hn : n ≤ pool.length) (hk : k < n)
    (stream : RandomStream) :
    (picks pool (stream.words n))[k]? = (left pool (stream.words k))[
      position (left pool (stream.words k)) (stream.word (stream.taken + k))]? := by
  have before : (picks pool (stream.words k)).length = k :=
    length_picks_words (Nat.le_of_lt (Nat.lt_of_lt_of_le hk hn)) stream
  have last : (stream.skip k).words 1 = [stream.word (stream.taken + k)] := rfl
  have upTo : picks pool (stream.words (k + 1)) = _ := picks_words_eq_take hk hn stream
  rw [RandomStream.words_add, picks_append, last, picks, picks, List.append_nil] at upTo
  rw [← List.getElem?_take_of_lt (Nat.lt_succ_self k), ← upTo,
    List.getElem?_append_right (Nat.le_of_eq before), before, Nat.sub_self]
  cases (left pool (stream.words k))[position (left pool (stream.words k))
    (stream.word (stream.taken + k))]? <;> rfl

/-! ## Several modes -/

/-- What the next words draw for the shares of some modes, one mode after the other. -/
def planPicks (scored : List (Scored α)) (count : GameMode → Nat) :
    List GameMode → RandomStream → List (Scored α)
  | [], _ => []
  | m :: modes, stream =>
    picks (poolOf scored m) (stream.words (count m)) ++
      planPicks scored count modes (stream.skip (count m))

section

variable {scored : List (Scored α)} {count : GameMode → Nat} {modes later : List GameMode}
  {stream : RandomStream}

theorem planPicks_append :
    planPicks scored count (modes ++ later) stream =
      planPicks scored count modes stream ++
        planPicks scored count later (stream.skip (modes.map count).sum) := by
  induction modes generalizing stream with
  | nil => rfl
  | cons m modes ih =>
    rw [List.cons_append, planPicks, planPicks, ih, List.append_assoc, RandomStream.skip_skip]
    rfl

/-- Nothing but the counts of the modes decides what is drawn for them. -/
theorem planPicks_congr {count' : GameMode → Nat} (same : ∀ m ∈ modes, count m = count' m) :
    planPicks scored count modes stream = planPicks scored count' modes stream := by
  induction modes generalizing stream with
  | nil => rfl
  | cons m modes ih =>
    obtain ⟨first, others⟩ := List.forall_mem_cons.1 same
    rw [planPicks, planPicks, first, ih others]

/-- What is drawn for some modes has one of these modes. -/
theorem gameMode_of_mem_planPicks {s : Scored α} (h : s ∈ planPicks scored count modes stream) :
    s.layer.gameMode ∈ modes := by
  induction modes generalizing stream with
  | nil => cases h
  | cons m modes ih =>
    rcases List.mem_append.1 h with first | later
    · exact List.mem_cons.2 (.inl (mem_poolOf.1 (mem_of_mem_picks first)).2)
    · exact List.mem_cons_of_mem m (ih later)

/-- What is drawn for modes of which none is selected is left out. -/
theorem filter_planPicks_eq_nil {p : GameMode → Bool} (h : ∀ m ∈ modes, p m = false) :
    (planPicks scored count modes stream).filter (fun s => p s.layer.gameMode) = [] := by
  refine List.filter_eq_nil_iff.2 fun s hs => ?_
  rw [h _ (gameMode_of_mem_planPicks hs)]
  exact Bool.false_ne_true

/-- What is drawn for modes that are all selected is kept. -/
theorem filter_planPicks_eq_self {p : GameMode → Bool} (h : ∀ m ∈ modes, p m = true) :
    (planPicks scored count modes stream).filter (fun s => p s.layer.gameMode) =
      planPicks scored count modes stream :=
  List.filter_eq_self.2 fun _ hs => h _ (gameMode_of_mem_planPicks hs)

/-- **The shares of the first modes are drawn first**, whatever is asked of the modes behind them. -/
theorem filter_planPicks_first (distinct : (modes ++ later).Nodup) :
    (planPicks scored count (modes ++ later) stream).filter (fun s => s.layer.gameMode ∈ modes) =
      planPicks scored count modes stream := by
  have apart := List.disjoint_of_nodup_append distinct
  have first : (planPicks scored count modes stream).filter (fun s => s.layer.gameMode ∈ modes) =
      planPicks scored count modes stream :=
    filter_planPicks_eq_self (p := (· ∈ modes)) fun m hm => decide_eq_true hm
  rw [planPicks_append, List.filter_append, first,
    filter_planPicks_eq_nil (p := (· ∈ modes)) fun m hm => decide_eq_false fun h => apart h hm,
    List.append_nil]

/-- **The share of a mode is drawn by the words behind those of the modes before it.** -/
theorem filter_planPicks_mode {m : GameMode} (distinct : (modes ++ m :: later).Nodup) :
    (planPicks scored count (modes ++ m :: later) stream).filter (·.layer.gameMode == m) =
      picks (poolOf scored m) ((stream.skip (modes.map count).sum).words (count m)) := by
  obtain ⟨_, behind, apart⟩ := List.nodup_append.1 distinct
  have share : ∀ words, (picks (poolOf scored m) words).filter (·.layer.gameMode == m) =
      picks (poolOf scored m) words := fun words =>
    List.filter_eq_self.2 fun s hs => beq_iff_eq.2 (mem_poolOf.1 (mem_of_mem_picks hs)).2
  have before : ∀ m' ∈ modes, (m' == m) = false := fun m' hm' =>
    beq_eq_false_iff_ne.2 (apart m' hm' m List.mem_cons_self)
  have after : ∀ m' ∈ later, (m' == m) = false := fun m' hm' =>
    beq_eq_false_iff_ne.2 fun same => (List.nodup_cons.1 behind).1 (same ▸ hm')
  rw [planPicks_append, List.filter_append, filter_planPicks_eq_nil before, planPicks,
    List.filter_append, share, filter_planPicks_eq_nil after, List.nil_append, List.append_nil]

/-- **Shares that are drawn take one word for each layer.** -/
theorem eq_planPicks_of_drawRequests {drawn : List (Scored α)} {rest : RandomStream}
    (h : drawRequests scored (requestsOf count modes) stream = (.ok drawn, rest)) :
    drawn = planPicks scored count modes stream ∧ (∀ m ∈ modes, count m ≤ (poolOf scored m).length) ∧
      rest = stream.skip drawn.length := by
  induction modes generalizing drawn stream rest with
  | nil =>
    cases h
    exact ⟨rfl, by simp, rfl⟩
  | cons m modes ih =>
    by_cases none : count m = 0
    · -- A mode of which nothing is asked is left out of the requests, and takes no word.
      rw [requestsOf_cons_of_zero none] at h
      obtain ⟨rfl, enough, rfl⟩ := ih h
      rw [planPicks, none]
      exact ⟨rfl, List.forall_mem_cons.2 ⟨none ▸ Nat.zero_le _, enough⟩, rfl⟩
    rw [requestsOf_cons_of_pos none, drawRequests] at h
    generalize hd : drawFrom (poolOf scored m) (count m) (some m) stream = result at h
    obtain ⟨_ | share, between⟩ := result
    · cases h
    obtain ⟨fits, rfl, rfl⟩ := eq_picks_of_drawFrom hd
    dsimp only at h
    generalize hr : drawRequests scored (requestsOf count modes) (stream.skip (count m)) = result at h
    obtain ⟨_ | others, rest'⟩ := result
    · cases h
    cases h
    obtain ⟨rfl, enough, rfl⟩ := ih hr
    refine ⟨rfl, List.forall_mem_cons.2 ⟨fits, enough⟩, ?_⟩
    rw [RandomStream.skip_skip, List.length_append, length_picks_words fits]

end

end Selection

section

variable {parameters : Parameters α} {history : History} {catalog : List Layer} {policy : Policy}
  {stream rest : RandomStream} {chosen : Selection α}

/-- A number of layers that is chosen is what the next words draw. -/
theorem eq_picks_of_select {n : Nat}
    (h : select parameters history catalog n policy stream = (.ok chosen, rest)) :
    n ≤ (scoreCatalog parameters history catalog policy).length ∧
      chosen.candidates =
        Selection.picks (scoreCatalog parameters history catalog policy) (stream.words n) ∧
      rest = stream.skip n := by
  unfold select at h
  split at h
  · cases h
  generalize hd : Selection.drawFrom (scoreCatalog parameters history catalog policy) n none stream =
    result at h
  obtain ⟨_ | _, _⟩ := result
  · cases h
  cases h
  exact Selection.eq_picks_of_drawFrom hd

/-- A choice for a plan is what the next words draw for the shares of all modes. -/
theorem eq_planPicks_of_selectPlan {plan : Plan}
    (h : selectPlan parameters history catalog plan policy stream = (.ok chosen, rest)) :
    let scored := scoreCatalog parameters history (eligibleLayers history catalog policy) policy
    let count := (restrictedPlan history catalog plan policy).count
    chosen.candidates = Selection.planPicks scored count GameMode.all stream ∧
      (∀ m, count m ≤ (Selection.poolOf scored m).length) ∧ rest = stream.skip chosen.size := by
  intro scored count
  unfold selectPlan at h
  split at h
  · cases h
  split at h
  · cases h
  dsimp only at h
  split at h
  · cases h
  rw [requests_eq] at h
  generalize hd : Selection.drawRequests scored (Selection.requestsOf count GameMode.all) stream =
    result at h
  obtain ⟨_ | drawn, _⟩ := result
  · cases h
  cases h
  obtain ⟨picked, enough, rest⟩ := Selection.eq_planPicks_of_drawRequests hd
  exact ⟨picked, fun m => enough m m.mem_all, rest⟩

end

/-- A choice with ids is one that succeeded. -/
theorem exists_ok_of_layerIds {β : Type} (result : Except SelectionError (Selection β) × RandomStream)
    (ids : List String) (h : result.1.toOption.map Selection.layerIds = some ids) :
    ∃ chosen rest, result = (.ok chosen, rest) ∧ chosen.layerIds = ids := by
  obtain ⟨_ | chosen, rest⟩ := result
  · cases h
  · exact ⟨chosen, rest, rfl, Option.some_inj.1 h⟩

end MapBallot
