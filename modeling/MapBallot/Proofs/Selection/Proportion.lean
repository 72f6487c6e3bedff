import Mathlib.Algebra.BigOperators.Group.Finset.Basic
import Mathlib.Algebra.Order.BigOperators.Group.List
import Mathlib.Algebra.Order.Floor.Semiring
import Mathlib.Algebra.Order.Field.Basic
import Mathlib.Algebra.Order.Field.Rat
import Mathlib.Data.Rat.Floor
import Mathlib.Order.Interval.Finset.Nat
import Mathlib.Tactic.Linarith
import MapBallot.Proofs.Selection.Words

/-!
# `MapBallot.Proofs.Selection.Proportion` — draws are proportional to the scores

The scores of a pool, laid end to end, fill the line from zero to their total, and a word selects a point of
it by its 52 high bits. So the words that draw a layer are those whose points lie in the interval of its
score, and there are as many of them as the interval is long, up to less than one, when the line is
stretched to `2 ^ 52`. Exact fractions only: in doubles the sums are rounded.

## Contents

* `Selection.start`, `drawIndex_eq_iff` — the score under a point;
* `Selection.wordOf`, `Selection.pickCount` — how many words draw a layer;
* `Selection.edge`, `pickCount_getElem` — the interval of a layer, and how many words are in it;
* `abs_pickCount_sub_lt`, `sum_pickCount` — one count is close to the share, all are all words;
* `Selection.Proportional`, `Selection.ProportionalAt` — the law of one draw, and of one of several;
* `draws_proportional` — choices are made of such draws.
-/

namespace MapBallot

open Weighting (Parameters)

namespace Selection

/-! ## The score under a point -/

theorem foldl_add_eq (ws : List Rat) (sum : Rat) : ws.foldl (· + ·) sum = sum + ws.sum := by
  induction ws generalizing sum with
  | nil => exact (add_zero sum).symm
  | cons w ws ih => rw [List.foldl_cons, ih, List.sum_cons, add_assoc]

theorem total_eq_sum (ws : List Rat) : total ws = ws.sum := by
  cases ws with
  | nil => rfl
  | cons w ws => exact foldl_add_eq ws w

/-- Where the score at a position begins: the sum of the scores before it. -/
def start (ws : List Rat) (i : Nat) : Rat := (ws.take i).sum

theorem start_cons_succ (w : Rat) (ws : List Rat) (i : Nat) :
    start (w :: ws) (i + 1) = w + start ws i := by
  rw [start, List.take_succ_cons, List.sum_cons, start]

theorem start_nonneg {ws : List Rat} (positive : ∀ w ∈ ws, 0 < w) (i : Nat) : 0 ≤ start ws i :=
  List.sum_nonneg fun w hw => (positive w (List.mem_of_mem_take hw)).le

/-- No bound is below the sum with which they start. -/
theorem countP_boundsAfter_eq_zero {ws : List Rat} (positive : ∀ w ∈ ws, 0 < w) {sum point : Rat}
    (h : point < sum) : (boundsAfter sum ws).countP (Scalar.le · point) = 0 := by
  induction ws generalizing sum with
  | nil => rfl
  | cons w ws ih =>
    obtain ⟨hw, hws⟩ := List.forall_mem_cons.1 positive
    rw [boundsAfter, List.countP_cons_of_neg (by simpa [Scalar.le] using h)]
    exact ih hws (h.trans (lt_add_of_pos_right sum hw))

/-- As many bounds are not beyond a point as there are scores before the one under it. -/
theorem countP_boundsAfter_eq_iff {w : Rat} {ws : List Rat} (positive : ∀ v ∈ w :: ws, 0 < v)
    {sum point : Rat} (above : sum ≤ point) (below : point < sum + (w :: ws).sum) {i : Nat}
    (hi : i < (w :: ws).length) :
    (boundsAfter (sum + w) ws).countP (Scalar.le · point) = i ↔
      sum + start (w :: ws) i ≤ point ∧ point < sum + start (w :: ws) (i + 1) := by
  induction ws generalizing w sum i with
  | nil =>
    obtain rfl : i = 0 := by simpa using hi
    simpa [boundsAfter, start, above] using below
  | cons w' ws ih =>
    obtain ⟨hw, hws⟩ := List.forall_mem_cons.1 positive
    rw [boundsAfter]
    by_cases before : point < sum + w
    · -- The point is under the first score, and so before all bounds.
      obtain ⟨hw', later⟩ := List.forall_mem_cons.1 hws
      have none : (boundsAfter (sum + w + w') ws).countP (Scalar.le · point) = 0 :=
        countP_boundsAfter_eq_zero later (before.trans (lt_add_of_pos_right _ hw'))
      rw [List.countP_cons_of_neg (by simpa [Scalar.le] using before), none]
      cases i with
      | zero => simpa [start, above] using before
      | succ i =>
        have behind := start_nonneg hws i
        rw [start_cons_succ]
        constructor
        · intro h
          cases h
        · rintro ⟨h, _⟩
          linarith
    · rw [List.countP_cons_of_pos (by simpa [Scalar.le] using not_lt.1 before)]
      cases i with
      | zero => simpa [start, above] using before
      | succ i =>
        have behind : point < sum + w + (w' :: ws).sum := by
          rwa [List.sum_cons, ← add_assoc] at below
        rw [Nat.add_right_cancel_iff, ih hws (not_lt.1 before) behind (Nat.lt_of_succ_lt_succ hi),
          start_cons_succ w, start_cons_succ w, ← add_assoc, ← add_assoc]

/-- **The position that is drawn is that of the score under the point.** -/
theorem drawIndex_eq_iff {ws : List Rat} (positive : ∀ w ∈ ws, 0 < w) {point : Rat}
    (above : 0 ≤ point) (below : point < ws.sum) {i : Nat} (hi : i < ws.length) :
    drawIndex ws point = i ↔ start ws i ≤ point ∧ point < start ws (i + 1) := by
  cases ws with
  | nil => exact absurd hi (Nat.not_lt_zero i)
  | cons w ws =>
    have first := countP_boundsAfter_eq_iff positive above (by rwa [zero_add]) hi
    rwa [zero_add, zero_add, zero_add] at first

/-! ## How many words draw a layer -/

/-- The number of values that the 52 high bits of a word have. -/
def grid : Nat := 2 ^ 52

/-- The word with these high bits, and no others. -/
def wordOf (w : Nat) : UInt64 := UInt64.ofNat w <<< 12

/-- In how many of the values of its high bits a word draws a layer from a pool. -/
def pickCount (pool : List (Scored Rat)) (s : Scored Rat) : Nat :=
  ((Finset.range grid).filter fun w => pool[position pool (wordOf w)]? = some s).card

theorem high_wordOf {w : Nat} (h : w < grid) : (wordOf w >>> 12).toNat = w := by
  unfold grid at h
  unfold wordOf
  rw [UInt64.toNat_shiftRight, UInt64.toNat_shiftLeft, UInt64.toNat_ofNat']
  -- No bit is lost: there are twelve places above the 52 bits.
  change (((w % 2 ^ 64) <<< 12) % 2 ^ 64) >>> 12 = w
  rw [Nat.shiftLeft_eq, Nat.shiftRight_eq_div_pow]
  omega

theorem high_lt (word : UInt64) : (word >>> 12).toNat < grid := by
  have h := word.toNat_lt
  unfold grid
  rw [UInt64.toNat_shiftRight]
  change word.toNat >>> 12 < 2 ^ 52
  rw [Nat.shiftRight_eq_div_pow]
  omega

/-- A word selects the share of the total that its high bits are of their number. -/
theorem pick_eq (total : Rat) (word : UInt64) :
    Scalar.pick total word = ((word >>> 12).toNat : Rat) / grid * total := rfl

/-- The low bits of a word have no say. -/
theorem position_wordOf (pool : List (Scored Rat)) (word : UInt64) :
    position pool (wordOf (word >>> 12).toNat) = position pool word := by
  unfold position
  rw [pick_eq, pick_eq, high_wordOf (high_lt word)]

/-- So many numbers are in an interval. -/
theorem card_filter_range {n : Nat} {x y : Rat} (h : y ≤ n) :
    ((Finset.range n).filter fun w : Nat => x ≤ w ∧ (w : Rat) < y).card = ⌈y⌉₊ - ⌈x⌉₊ := by
  have interval : ((Finset.range n).filter fun w : Nat => x ≤ w ∧ (w : Rat) < y) =
      Finset.Ico ⌈x⌉₊ ⌈y⌉₊ := by
    ext w
    rw [Finset.mem_filter, Finset.mem_range, Finset.mem_Ico, Nat.ceil_le, Nat.lt_ceil]
    refine ⟨And.right, fun inside => ⟨?_, inside⟩⟩
    exact_mod_cast inside.2.trans_le h
  rw [interval, Nat.card_Ico]

/-- The number of whole numbers in an interval differs from its length by less than one. -/
theorem abs_ceil_sub_ceil_sub_lt {x y : Rat} (hx : 0 ≤ x) (hxy : x ≤ y) :
    |((⌈y⌉₊ - ⌈x⌉₊ : Nat) : Rat) - (y - x)| < 1 := by
  have hy := hx.trans hxy
  rw [Nat.cast_sub (Nat.ceil_mono hxy), abs_lt]
  have low := Nat.le_ceil x
  have low' := Nat.le_ceil y
  have high := Nat.ceil_lt_add_one hx
  have high' := Nat.ceil_lt_add_one hy
  constructor <;> linarith

/-- Where the words begin that draw the layer at a position: the share of the scores before it. -/
def edge (pool : List (Scored Rat)) (i : Nat) : Rat :=
  grid * (start (pool.map Scored.score) i / (pool.map Scored.score).sum)

theorem edge_zero (pool : List (Scored Rat)) : edge pool 0 = 0 := by
  simp [edge, start]

theorem edge_succ {pool : List (Scored Rat)} {i : Nat} (hi : i < pool.length) :
    edge pool (i + 1) = edge pool i + grid * (pool[i].score / (pool.map Scored.score).sum) := by
  rw [edge, edge, start, start, List.take_succ_eq_append_getElem (by simpa using hi), List.sum_append,
    List.sum_singleton, List.getElem_map]
  ring

section

variable {pool : List (Scored Rat)} (positive : ∀ s ∈ pool, 0 < s.score)

include positive

theorem scores_pos : ∀ w ∈ pool.map Scored.score, 0 < w := by
  simpa using positive

theorem sum_pos (h : pool ≠ []) : 0 < (pool.map Scored.score).sum :=
  List.sum_pos _ (scores_pos positive) (mt List.map_eq_nil_iff.1 h)

theorem edge_nonneg (i : Nat) : 0 ≤ edge pool i :=
  mul_nonneg (Nat.cast_nonneg _) (div_nonneg (start_nonneg (scores_pos positive) i)
    (List.sum_nonneg fun w hw => (scores_pos positive w hw).le))

theorem edge_le_succ (i : Nat) : edge pool i ≤ edge pool (i + 1) := by
  rcases lt_or_ge i pool.length with inside | beyond
  · rw [edge_succ inside]
    have score := positive _ (List.getElem_mem inside)
    have whole := sum_pos positive (List.ne_nil_of_length_pos (Nat.zero_lt_of_lt inside))
    exact le_add_of_nonneg_right (by positivity)
  · rw [edge, edge, start, start, List.take_of_length_le (by simpa using beyond),
      List.take_of_length_le (by simp; omega)]

theorem edge_length (h : pool ≠ []) : edge pool pool.length = grid := by
  have whole := sum_pos positive h
  rw [edge, start, List.take_of_length_le (by simp), div_self whole.ne', mul_one]

theorem edge_le_grid {i : Nat} (hi : i ≤ pool.length) (h : pool ≠ []) : edge pool i ≤ grid := by
  rw [← edge_length positive h]
  exact monotone_nat_of_le_succ (edge_le_succ positive) hi

/-- The words that draw the layer at a position are those between its edge and the next. -/
theorem position_eq_iff {i w : Nat} (hi : i < pool.length) (hw : w < grid) :
    position pool (wordOf w) = i ↔ edge pool i ≤ w ∧ (w : Rat) < edge pool (i + 1) := by
  have whole := sum_pos positive (List.ne_nil_of_length_pos (Nat.zero_lt_of_lt hi))
  have grid_pos : (0 : Rat) < grid := by norm_num [grid]
  have share_lt : (w : Rat) / grid < 1 := (div_lt_one grid_pos).2 (by exact_mod_cast hw)
  -- Where a point lies among the scores is where its word lies among the edges.
  have scale : ∀ j, start (pool.map Scored.score) j ≤ w / grid * (pool.map Scored.score).sum ↔
      edge pool j ≤ w := fun j => by
    rw [edge, ← div_le_iff₀ whole, le_div_iff₀' grid_pos]
  unfold position
  rw [pick_eq, high_wordOf hw, total_eq_sum,
    drawIndex_eq_iff (scores_pos positive) (by positivity) (mul_lt_of_lt_one_left whole share_lt)
      (by simpa using hi),
    scale, ← not_le, scale, not_le]

/-- As many words draw a layer as there are whole numbers between its edge and the next. -/
theorem pickCount_getElem (distinct : pool.Nodup) {i : Nat} (hi : i < pool.length) :
    pickCount pool pool[i] = ⌈edge pool (i + 1)⌉₊ - ⌈edge pool i⌉₊ := by
  have some := List.ne_nil_of_length_pos (Nat.zero_lt_of_lt hi)
  have between : ∀ w ∈ Finset.range grid, pool[position pool (wordOf w)]? = pool[i] ↔
      edge pool i ≤ w ∧ (w : Rat) < edge pool (i + 1) := fun w hw => by
    rw [← position_eq_iff positive hi (Finset.mem_range.1 hw), ← List.getElem?_eq_getElem hi,
      List.getElem?_inj (position_lt some _) distinct]
  rw [pickCount, Finset.filter_congr between, card_filter_range (edge_le_grid positive hi some)]

/-- **As many words draw a layer as its share of the scores asks for**, up to less than one. -/
theorem abs_pickCount_sub_lt (distinct : pool.Nodup) {s : Scored Rat} (h : s ∈ pool) :
    |(pickCount pool s : Rat) - grid * s.score / (pool.map Scored.score).sum| < 1 := by
  obtain ⟨i, hi, rfl⟩ := List.getElem_of_mem h
  have close := abs_ceil_sub_ceil_sub_lt (edge_nonneg positive i) (edge_le_succ positive i)
  have width : grid * pool[i].score / (pool.map Scored.score).sum = edge pool (i + 1) - edge pool i := by
    rw [edge_succ hi, add_sub_cancel_left, mul_div_assoc]
  rwa [pickCount_getElem positive distinct hi, width]

/-- **Every word draws a layer**: the counts add up to the number of words. -/
theorem sum_pickCount (distinct : pool.Nodup) (h : pool ≠ []) :
    (pool.map (pickCount pool)).sum = grid := by
  have counts : pool.map (pickCount pool) =
      (List.range pool.length).map fun i => ⌈edge pool (i + 1)⌉₊ - ⌈edge pool i⌉₊ := by
    refine List.ext_getElem (by simp) fun i hi _ => ?_
    rw [List.getElem_map, pickCount_getElem positive distinct (by simpa using hi), List.getElem_map,
      List.getElem_range]
  have climbing : Monotone fun i => ⌈edge pool i⌉₊ :=
    monotone_nat_of_le_succ fun i => Nat.ceil_mono (edge_le_succ positive i)
  -- The counts telescope: the first edge is zero, and the last is the number of words.
  have telescope := Finset.sum_range_tsub climbing pool.length
  rw [edge_zero, edge_length positive h, Nat.ceil_zero, Nat.ceil_natCast, Nat.sub_zero] at telescope
  rw [counts, ← telescope, Finset.sum, Finset.range_val, Multiset.range, Multiset.map_coe,
    Multiset.sum_coe]

/-- A score that is not smaller has as many words, or one less. -/
theorem pickCount_le_of_score_le (distinct : pool.Nodup) {s s' : Scored Rat} (h : s ∈ pool)
    (h' : s' ∈ pool) (le : s'.score ≤ s.score) : pickCount pool s' ≤ pickCount pool s + 1 := by
  have whole := sum_pos positive (List.ne_nil_of_mem h)
  have share : grid * s'.score / (pool.map Scored.score).sum ≤
      grid * s.score / (pool.map Scored.score).sum := by
    gcongr
  -- Each count is less than one away from its share, so they are out of order by less than two.
  have low := (abs_lt.1 (abs_pickCount_sub_lt positive distinct h)).1
  have high := (abs_lt.1 (abs_pickCount_sub_lt positive distinct h')).2
  have apart : (pickCount pool s' : Rat) < (pickCount pool s + 2 : Nat) := by
    push_cast
    linarith
  exact Nat.le_of_lt_succ (by exact_mod_cast apart)

end

/-- What is not in the pool is not drawn. -/
theorem pickCount_eq_zero {pool : List (Scored Rat)} {s : Scored Rat} (h : s ∉ pool) :
    pickCount pool s = 0 := by
  refine Finset.card_eq_zero.2 (Finset.filter_eq_empty_iff.2 fun w _ picked => h ?_)
  exact List.mem_of_getElem? picked

/-! ## A draw -/

/-- Of the words, a draw from a pool gives each layer its share of the scores, and no word to what was
drawn before. -/
structure Proportional (pool drawn : List (Scored Rat)) : Prop where
  close : ∀ s ∈ pool, |(pickCount pool s : Rat) - grid * s.score / (pool.map Scored.score).sum| < 1
  whole : (pool.map (pickCount pool)).sum = grid
  gone : ∀ s ∈ drawn, pickCount pool s = 0
  ordered : ∀ s ∈ pool, ∀ s' ∈ pool, s'.score ≤ s.score → pickCount pool s' ≤ pickCount pool s + 1

/-- Of the layers that are drawn from a pool, the one at a position is drawn from what those before it
leave, and in proportion to the scores. -/
structure ProportionalAt (pool drawn : List (Scored Rat)) (stream : RandomStream) (k : Nat) : Prop where
  before : drawn.take k = picks pool (stream.words k)
  remaining : (drawn.take k ++ left pool (stream.words k)).Perm pool
  picked : drawn[k]? =
    (left pool (stream.words k))[position (left pool (stream.words k)) (stream.word (stream.taken + k))]?
  proportional : Proportional (left pool (stream.words k)) (drawn.take k)

section

variable {pool : List (Scored Rat)} (positive : ∀ s ∈ pool, 0 < s.score) (distinct : pool.Nodup)

include positive distinct

/-- **A draw is proportional**, whatever was drawn before. -/
theorem proportional_left {ws : List UInt64} (h : ws.length < pool.length) :
    Proportional (left pool ws) (picks pool ws) := by
  have all := picks_append_left_perm pool ws
  obtain ⟨_, distinctLeft, apart⟩ := List.nodup_append.1 (all.nodup_iff.2 distinct)
  have positiveLeft : ∀ s ∈ left pool ws, 0 < s.score := fun s hs =>
    positive s (all.subset (List.mem_append_right _ hs))
  have nonempty : left pool ws ≠ [] := by
    intro none
    have := all.length_eq
    rw [none, List.append_nil, length_picks h.le] at this
    omega
  exact {
    close := fun s hs => abs_pickCount_sub_lt positiveLeft distinctLeft hs
    whole := sum_pickCount positiveLeft distinctLeft nonempty
    gone := fun s hs => pickCount_eq_zero fun hs' => apart s hs s hs' rfl
    ordered := fun s hs s' hs' => pickCount_le_of_score_le positiveLeft distinctLeft hs hs' }

/-- Each of several draws is proportional. -/
theorem proportionalAt_picks {n k : Nat} (hn : n ≤ pool.length) (hk : k < n) (stream : RandomStream) :
    ProportionalAt pool (picks pool (stream.words n)) stream k := by
  have first : (picks pool (stream.words n)).take k = picks pool (stream.words k) :=
    (picks_words_eq_take hk.le hn stream).symm
  exact ⟨first, first ▸ picks_append_left_perm pool _, getElem?_picks_words hn hk stream,
    first ▸ proportional_left positive distinct (by simpa using hk.trans_le hn)⟩

end

end Selection

/-! ## Choices -/

open Selection

/-- **Draws are proportional to the scores**, in exact fractions. Whatever was drawn before from the layers
that can be drawn, or from those of one mode, each layer that is left is drawn by as many of the `2 ^ 52`
values of a word's high bits as its share of the remaining scores asks for, up to less than one; all values
draw a layer, none draws one that was drawn before, and a score that is not smaller has as many values, or
one less. A choice is made of such draws, one word after the other, and the low bits of a word have no
say. -/
theorem draws_proportional (parameters : Parameters Rat) (history : History) (catalog : List Layer)
    (policy : Policy) (stream : RandomStream) :
    let scored := scoreCatalog parameters history catalog policy
    let pool := poolOf (scoreCatalog parameters history (eligibleLayers history catalog policy) policy)
    (∀ ws : List UInt64, ws.length < scored.length →
      Proportional (left scored ws) (picks scored ws)) ∧
    (∀ (mode : GameMode) (ws : List UInt64), ws.length < (pool mode).length →
      Proportional (left (pool mode) ws) (picks (pool mode) ws)) ∧
    (∀ n chosen rest, select parameters history catalog n policy stream = (.ok chosen, rest) →
      ∀ k < n, ProportionalAt scored chosen.candidates stream k) ∧
    (∀ plan chosen rest modes mode later, modes ++ mode :: later = GameMode.all →
      selectPlan parameters history catalog plan policy stream = (.ok chosen, rest) →
      let count := (restrictedPlan history catalog plan policy).count
      ∀ k < count mode, ProportionalAt (pool mode)
        (chosen.candidates.filter (·.layer.gameMode == mode)) (stream.skip (modes.map count).sum) k) ∧
    (∀ (pool : List (Scored Rat)) (word : UInt64),
      position pool word = position pool (wordOf (word >>> 12).toNat)) := by
  intro scored pool
  have positive : ∀ (catalog : List Layer), ∀ s ∈ scoreCatalog parameters history catalog policy,
      0 < s.score := fun _ s hs => isDrawable_iff.1 (scoreCatalog_drawable hs)
  have distinct : ∀ catalog : List Layer, (scoreCatalog parameters history catalog policy).Nodup :=
    fun catalog => (scoreCatalog_nodup parameters history catalog policy).of_map
  have positiveIn : ∀ mode, ∀ s ∈ pool mode, 0 < s.score := fun mode s hs =>
    positive _ s (mem_poolOf.1 hs).1
  have distinctIn : ∀ mode, (pool mode).Nodup := fun mode => (distinct _).filter _
  refine ⟨fun ws => proportional_left (positive _) (distinct _),
    fun mode ws => proportional_left (positiveIn mode) (distinctIn mode), ?choice, ?plan,
    fun pool word => (position_wordOf pool word).symm⟩
  case choice =>
    intro n chosen rest h k hk
    obtain ⟨enough, picked, _⟩ := eq_picks_of_select h
    rw [picked]
    exact proportionalAt_picks (positive _) (distinct _) enough hk stream
  case plan =>
    intro plan chosen rest modes mode later split h count k hk
    obtain ⟨picked, enough, _⟩ := eq_planPicks_of_selectPlan h
    have once : (modes ++ mode :: later).Nodup := by
      rw [split]
      decide
    rw [picked, ← split, filter_planPicks_mode once]
    exact proportionalAt_picks (positiveIn mode) (distinctIn mode) (enough mode) hk _

/-- Two maps, of which a map just played keeps half of its weight. -/
def halvingParameters : Parameters Rat :=
  ⟨[⟨"Top", 80, 1 / 2, ["foy", "kursk"]⟩], [⟨"Day", 100, 0, [.day]⟩]⟩

/-- A round on one of them. -/
def foyPlayed : History := .ofPlays [⟨"foy", .day, 4, none, .epoch⟩]

/-- A layer of each. -/
def bothMaps : List Layer :=
  [⟨"foy_warfare", "foy", .day, .warfare, none⟩, ⟨"kursk_warfare", "kursk", .day, .warfare, none⟩]

/-- The map that was not played is drawn with twice the share of the other, alone and for a plan. -/
theorem draws_proportional_halved :
    let scored := scoreCatalog halvingParameters foyPlayed bothMaps .default
    let pool := poolOf scored .warfare
    let stream : RandomStream := ⟨fun _ => 0, 0⟩
    scored.map Scored.score = [4000, 8000] ∧ Proportional scored [] ∧ Proportional pool [] ∧
      (∃ two, (select halvingParameters foyPlayed bothMaps 2 .default stream).1 = .ok two ∧
        two.layerIds = ["foy_warfare", "kursk_warfare"] ∧
        ProportionalAt scored two.candidates stream 1) ∧
      ∃ planned, (selectPlan halvingParameters foyPlayed bothMaps (Plan.empty.set .warfare 2) .default
          stream).1 = .ok planned ∧
        planned.layerIds = ["foy_warfare", "kursk_warfare"] ∧
        ProportionalAt pool (planned.candidates.filter (·.layer.gameMode == .warfare)) stream 1 := by
  intro scored pool stream
  obtain ⟨ofAll, ofMode, chosen, planned, _⟩ :=
    draws_proportional halvingParameters foyPlayed bothMaps .default stream
  obtain ⟨two, rest, h, ids⟩ := exists_ok_of_layerIds
    (select halvingParameters foyPlayed bothMaps 2 .default stream) ["foy_warfare", "kursk_warfare"]
    (by decide +kernel)
  obtain ⟨share, rest', h', ids'⟩ := exists_ok_of_layerIds
    (selectPlan halvingParameters foyPlayed bothMaps (Plan.empty.set .warfare 2) .default stream)
    ["foy_warfare", "kursk_warfare"] (by decide +kernel)
  refine ⟨by decide +kernel, ofAll [] (by decide +kernel), ofMode .warfare [] (by decide +kernel),
    ⟨two, by rw [h], ids, chosen 2 two rest h 1 (by decide)⟩, share, by rw [h'], ids', ?_⟩
  exact planned _ share rest' [] .warfare _ rfl h' 1 (by decide +kernel)

end MapBallot
