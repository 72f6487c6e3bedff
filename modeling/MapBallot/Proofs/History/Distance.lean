import Mathlib.Order.Bounds.Basic
import MapBallot.Proofs.History.Normal
import MapBallot.Proofs.History.Recency
import MapBallot.Proofs.Weighting.Parameters
import MapBallot.Score.Decay

/-!
# `MapBallot.Proofs.History.Distance` — recency as a least distance

The rounds of a history are in order, so the last one that is selected is the nearest to the newest round,
and the recency is the least distance of all that are selected. It can be had from the parts: the recency of
a group of maps is the least of those of its maps. A shorter history has the same newest round, so a recency
stays as it was as long as anything is left that it could count to.

## Contents

* `recencyWhere_eq_rounds_iff`, `recencyWhere_eq_never_iff` — recency by the newest round that is selected;
* `Ago`, `isLeast_recencyWhere` — recency as the least distance;
* `isLeast_recencyOfMaps` — a group of maps, from its maps;
* `listedIn`, `recencyOfMapGroup_eq`, `recencyOfEnvironmentGroup_eq` — groups by their names;
* `Remains`, `recencyWhere_truncated` — recency in a shorter history;
* `WindowLaw`, `recency_window` — what recency says, and how it changes when less is kept.
-/

namespace MapBallot

open Weighting (Document Group Parameters groupNamed? groupNamed?_eq_some)

/-- Old rounds that are put in front leave the newest one the newest. -/
theorem IsLatest.append_left {ps qs : List Play} {newest : UInt64} (latest : IsLatest newest qs)
    (older : ∀ p ∈ ps, ∀ q ∈ qs, p.before q = true) : IsLatest newest (ps ++ qs) := by
  obtain ⟨⟨q, hq, rfl⟩, newer⟩ := latest
  refine ⟨⟨q, List.mem_append_right ps hq, rfl⟩, fun p hp => ?_⟩
  rcases List.mem_append.1 hp with hp | hp
  · have before : p.roundIndex < q.roundIndex := by simpa [Play.before] using older p hp q hq
    exact UInt64.le_of_lt before
  · exact newer p hp

namespace History

variable {h : History} {sel sel' : Play → Bool} {q : Play} {r : Recency}

/-! ## The newest round that is selected -/

/-- The rounds of a history that are selected. -/
def selected (h : History) (sel : Play → Bool) : History := ⟨h.plays.filter sel, h.ascending.filter sel⟩

/-- The search from the back ends at the newest round that is selected. -/
theorem find?_reverse_plays (h : History) (sel : Play → Bool) :
    h.plays.reverse.find? sel = (h.selected sel).latest? := by
  rw [← List.head?_filter, List.filter_reverse, List.head?_reverse]
  rfl

/-- Nothing that is selected was ever played. -/
theorem recencyWhere_eq_never_iff : h.recencyWhere sel = .never ↔ ∀ q ∈ h.plays, sel q = false := by
  constructor
  · intro never q hq
    by_contra selected
    obtain ⟨newest, last?⟩ := Option.isSome_iff_exists.1 (List.getLast?_isSome.2 (List.ne_nil_of_mem hq))
    obtain ⟨last, found⟩ : ∃ last, h.plays.reverse.find? sel = some last := by
      refine Option.isSome_iff_exists.1 (List.find?_isSome.2 ⟨q, List.mem_reverse.2 hq, ?_⟩)
      simpa using selected
    rw [recencyWhere, latest?, last?, found] at never
    cases never
  · intro none
    have missing : h.plays.reverse.find? sel = Option.none := by
      refine List.find?_eq_none.2 fun q hq => ?_
      rw [none q (List.mem_reverse.1 hq)]
      exact Bool.false_ne_true
    rw [recencyWhere, missing]
    cases h.latest? <;> rfl

/-- **Recency counts from the newest round back to the newest one that is selected**, and the difference
is never cut off at zero. -/
theorem recencyWhere_eq_rounds_iff {n : Nat} :
    h.recencyWhere sel = .rounds n ↔
      ∃ newest last, IsLatest newest h.plays ∧ IsLatest last (h.plays.filter sel) ∧
        last.toNat + n = newest.toNat := by
  have ofHistory (newest : UInt64) : IsLatest newest h.plays ↔ h.latestIndex? = some newest :=
    latestIndex?_eq_some_iff.symm
  have ofSelected (last : UInt64) : IsLatest last (h.plays.filter sel) ↔
      (h.selected sel).latestIndex? = some last :=
    (latestIndex?_eq_some_iff (h := h.selected sel)).symm
  constructor
  · intro rounds
    rw [recencyWhere, find?_reverse_plays] at rounds
    cases newest? : h.latest? with
    | none =>
      rw [newest?] at rounds
      cases rounds
    | some newest =>
      cases last? : (h.selected sel).latest? with
      | none =>
        rw [newest?, last?] at rounds
        cases rounds
      | some last =>
        rw [newest?, last?] at rounds
        have isNewest : IsLatest newest.roundIndex h.plays := by rw [ofHistory, latestIndex?, newest?]; rfl
        have isLast : IsLatest last.roundIndex (h.plays.filter sel) := by
          rw [ofSelected, latestIndex?, last?]
          rfl
        refine ⟨_, _, isNewest, isLast, ?_⟩
        -- The newest round that is selected is not after the newest of all.
        obtain ⟨⟨q, hq, same⟩, _⟩ := isLast
        have le := UInt64.le_iff_toNat_le.1 (isNewest.2 q (List.mem_of_mem_filter hq))
        rw [same] at le
        obtain rfl := Recency.rounds.inj rounds
        exact Nat.add_sub_cancel' le
  · rintro ⟨newest, last, isNewest, isLast, total⟩
    rw [ofHistory, latestIndex?, Option.map_eq_some_iff] at isNewest
    rw [ofSelected, latestIndex?, Option.map_eq_some_iff] at isLast
    obtain ⟨newestPlay, newest?, rfl⟩ := isNewest
    obtain ⟨lastPlay, last?, rfl⟩ := isLast
    rw [recencyWhere, find?_reverse_plays, newest?, last?]
    exact congrArg Recency.rounds (by omega)

/-! ## The least distance -/

/-- The rounds from the newest one of the history back to a round. -/
def Ago (h : History) (q : Play) (r : Recency) : Prop :=
  ∃ newest n, IsLatest newest h.plays ∧ r = .rounds n ∧ q.roundIndex.toNat + n = newest.toNat

/-- **Recency is the least distance** of the rounds that are selected, and `never` without any. -/
theorem isLeast_recencyWhere (h : History) (sel : Play → Bool) :
    IsLeast (insert .never {r | ∃ q ∈ h.plays, sel q = true ∧ h.Ago q r}) (h.recencyWhere sel) := by
  constructor
  · cases recency : h.recencyWhere sel with
    | never => exact .inl rfl
    | rounds n =>
      obtain ⟨newest, last, isNewest, ⟨⟨q, hq, rfl⟩, _⟩, total⟩ := recencyWhere_eq_rounds_iff.1 recency
      obtain ⟨hq, selected⟩ := List.mem_filter.1 hq
      exact .inr ⟨q, hq, selected, newest, n, isNewest, rfl, total⟩
  · rintro r (rfl | ⟨q, hq, selected, newest, n, isNewest, rfl, total⟩)
    · exact Recency.le_never _
    · cases recency : h.recencyWhere sel with
      | never =>
        rw [recencyWhere_eq_never_iff.1 recency q hq] at selected
        cases selected
      | rounds m =>
        obtain ⟨newest', last, isNewest', isLast, total'⟩ := recencyWhere_eq_rounds_iff.1 recency
        obtain rfl := isNewest.unique isNewest'
        have le := UInt64.le_iff_toNat_le.1 (isLast.2 q (List.mem_filter.2 ⟨hq, selected⟩))
        rw [Recency.rounds_le_rounds_iff]
        omega

/-- What selects more is at least as recent. -/
theorem recencyWhere_anti (more : ∀ q, sel q = true → sel' q = true) :
    h.recencyWhere sel' ≤ h.recencyWhere sel := by
  refine (isLeast_recencyWhere h sel).mono (isLeast_recencyWhere h sel') ?_
  refine Set.insert_subset_insert ?_
  rintro r ⟨q, hq, selected, ago⟩
  exact ⟨q, hq, more q selected, ago⟩

/-- **The recency of some maps is the least of their own.** -/
theorem isLeast_recencyOfMaps (h : History) (maps : List String) :
    IsLeast (insert .never (h.recencyOfMap '' {m | m ∈ maps}))
      (h.recencyWhere fun q => maps.contains q.map) := by
  have atMost (m : String) (hm : m ∈ maps) :
      (h.recencyWhere fun q => maps.contains q.map) ≤ h.recencyOfMap m := by
    refine recencyWhere_anti fun q played => ?_
    rw [beq_iff_eq.1 played]
    exact List.contains_iff_mem.2 hm
  constructor
  · rcases (isLeast_recencyWhere h fun q => maps.contains q.map).1 with never | ⟨q, hq, listed, ago⟩
    · exact .inl never
    · -- The round it counts to is one of its own map.
      have hm : q.map ∈ maps := List.contains_iff_mem.1 listed
      have own : h.recencyOfMap q.map ≤ h.recencyWhere fun q => maps.contains q.map :=
        (isLeast_recencyWhere h (·.map == q.map)).2 (.inr ⟨q, hq, beq_self_eq_true _, ago⟩)
      exact .inr ⟨q.map, hm, le_antisymm own (atMost q.map hm)⟩
  · rintro r (rfl | ⟨m, hm, rfl⟩)
    · exact Recency.le_never _
    · exact atMost m hm

/-! ## Groups by their names -/

section

variable {Member α : Type} {groups : List (Group Member α)} {name : String}

/-- The members of the group with a name; none if there is no such group. -/
def listedIn (groups : List (Group Member α)) (name : String) : List Member :=
  (groupNamed? groups name).elim [] Group.members

theorem listedIn_of_mem (distinct : (groups.map Group.name).Nodup) {g : Group Member α} (hg : g ∈ groups) :
    listedIn groups g.name = g.members := by
  rw [listedIn, groupNamed?_eq_some distinct hg]
  rfl

/-- A name without a group, or with one that lists nothing, stands for nothing. -/
theorem listedIn_eq_nil (none : ∀ g ∈ groups, g.name = name → g.members = []) : listedIn groups name = [] := by
  unfold listedIn
  cases found : groupNamed? groups name with
  | none => rfl
  | some g =>
    have named : g.name = name := by simpa using List.find?_some found
    exact none g (List.mem_of_find?_eq_some found) named

/-- Where names are not repeated, a name stands for what its group lists. -/
theorem mem_listedIn_iff (distinct : (groups.map Group.name).Nodup) {m : Member} :
    m ∈ listedIn groups name ↔ ∃ g ∈ groups, g.name = name ∧ m ∈ g.members := by
  constructor
  · intro listed
    unfold listedIn at listed
    cases found : groupNamed? groups name with
    | none =>
      rw [found] at listed
      exact absurd listed List.not_mem_nil
    | some g =>
      rw [found] at listed
      exact ⟨g, List.mem_of_find?_eq_some found, by simpa using List.find?_some found, listed⟩
  · rintro ⟨g, hg, rfl, listed⟩
    rwa [listedIn_of_mem distinct hg]

variable {p : Parameters α}

/-- Without members nothing is selected. -/
theorem recencyWhere_of_nil [BEq Member] (h : History) (f : Play → Member) :
    (h.recencyWhere fun q => ([] : List Member).contains (f q)) = .never :=
  recencyWhere_eq_never_iff.2 fun _ _ => rfl

theorem recencyOfMapGroup_eq (h : History) (p : Parameters α) (name : String) :
    h.recencyOfMapGroup p name = h.recencyWhere fun q => (listedIn p.mapGroups name).contains q.map := by
  unfold recencyOfMapGroup Parameters.mapGroup? listedIn
  cases groupNamed? p.mapGroups name with
  | none => exact (recencyWhere_of_nil h Play.map).symm
  | some g => rfl

theorem recencyOfEnvironmentGroup_eq (h : History) (p : Parameters α) (name : String) :
    h.recencyOfEnvironmentGroup p name =
      h.recencyWhere fun q => (listedIn p.environmentGroups name).contains q.environment := by
  unfold recencyOfEnvironmentGroup Parameters.environmentGroup? listedIn
  cases groupNamed? p.environmentGroups name with
  | none => exact (recencyWhere_of_nil h Play.environment).symm
  | some g => rfl

end

/-! ## A shorter history -/

/-- A recency after rounds were dropped: it is as it was, or `never` if nothing that is left is selected. -/
structure Remains (left : List Play) (sel : Play → Prop) (r r' : Recency) : Prop where
  same : r' = r ∨ r' = .never
  never : r' = .never ↔ ∀ q ∈ left, ¬ sel q

/-- **In a shorter history a recency is as it was, or `never`.** The newest round is the same, and so is
the newest one that is selected, unless it was dropped. -/
theorem recencyWhere_truncated (h : History) (retention : Nat) (sel : Play → Bool) :
    Remains (h.truncated retention).plays (sel · = true) (h.recencyWhere sel)
      ((h.truncated retention).recencyWhere sel) := by
  refine ⟨?same, ?never⟩
  case never => simp [recencyWhere_eq_never_iff]
  case same =>
    cases recency : (h.truncated retention).recencyWhere sel with
    | never => exact .inr rfl
    | rounds n =>
      refine .inl (Eq.symm ?_)
      obtain ⟨newest, last, isNewest, isLast, total⟩ := recencyWhere_eq_rounds_iff.1 recency
      have parts : h.plays.take (h.plays.length - retention) ++ (h.truncated retention).plays = h.plays :=
        List.take_append_drop _ _
      have older := h.ascending
      rw [← parts] at older
      replace older := (List.pairwise_append.1 older).2.2
      refine recencyWhere_eq_rounds_iff.2 ⟨newest, last, ?_, ?_, total⟩
      · rw [← parts]
        exact isNewest.append_left older
      · rw [← parts, List.filter_append]
        exact isLast.append_left fun p hp q hq =>
          older p (List.mem_of_mem_filter hp) q (List.mem_of_mem_filter hq)

/-- The newest rounds of what was kept are the newest rounds of all. -/
theorem truncated_ofRecent (rs : List Play) {a b : Nat} (less : b ≤ a) :
    (ofRecent rs a).truncated b = ofRecent rs b := by
  refine eq_of_plays ?_
  show (ofRecent rs a).plays.rtake b = _
  rw [plays_ofRecent, plays_ofRecent, rtake_rtake, Nat.min_eq_left less]

theorem recencyWhere_ofRecent (rs : List Play) {a b : Nat} (less : b ≤ a) (sel : Play → Bool) :
    Remains (ofRecent rs b).plays (sel · = true) ((ofRecent rs a).recencyWhere sel)
      ((ofRecent rs b).recencyWhere sel) := by
  rw [← truncated_ofRecent rs less]
  exact recencyWhere_truncated _ _ _

/-! ## What recency says -/

/-- What the recencies of a history say about its rounds. -/
structure WindowLaw {α : Type} (p : Parameters α) (h : History) : Prop where
  /-- A map that was played: the rounds from its newest one to the newest of all. -/
  map (m : String) (n : Nat) :
    h.recencyOfMap m = .rounds n ↔
      ∃ newest last, IsLatest newest h.plays ∧ IsLatest last (h.plays.filter (·.map == m)) ∧
        last.toNat + n = newest.toNat
  unplayed (m : String) : h.recencyOfMap m = .never ↔ ∀ q ∈ h.plays, q.map ≠ m
  /-- A group of maps: the least of the recencies of its maps. -/
  mapGroup : ∀ g ∈ p.mapGroups,
    IsLeast (insert .never (h.recencyOfMap '' {m | m ∈ g.members})) (h.recencyOfMapGroup p g.name)
  /-- A group of environments: the least distance of the rounds with one of them. -/
  environmentGroup : ∀ g ∈ p.environmentGroups,
    IsLeast (insert .never {r | ∃ q ∈ h.plays, q.environment ∈ g.members ∧ h.Ago q r})
      (h.recencyOfEnvironmentGroup p g.name)
  /-- A name without a group, or with one that lists nothing. -/
  noMaps (name : String) (none : ∀ g ∈ p.mapGroups, g.name = name → g.members = []) :
    h.recencyOfMapGroup p name = .never
  noEnvironments (name : String) (none : ∀ g ∈ p.environmentGroups, g.name = name → g.members = []) :
    h.recencyOfEnvironmentGroup p name = .never

theorem windowLaw {α : Type} {p : Parameters α} (mapNames : (p.mapGroups.map Group.name).Nodup)
    (environmentNames : (p.environmentGroups.map Group.name).Nodup) (h : History) : WindowLaw p h where
  map m n := recencyWhere_eq_rounds_iff
  unplayed m := by simp [recencyOfMap, recencyWhere_eq_never_iff]
  mapGroup g hg := by
    rw [recencyOfMapGroup_eq, listedIn_of_mem mapNames hg]
    exact isLeast_recencyOfMaps h g.members
  environmentGroup g hg := by
    rw [recencyOfEnvironmentGroup_eq, listedIn_of_mem environmentNames hg]
    simpa using isLeast_recencyWhere h fun q => g.members.contains q.environment
  noMaps name none := by rw [recencyOfMapGroup_eq, listedIn_eq_nil none, recencyWhere_of_nil]
  noEnvironments name none := by
    rw [recencyOfEnvironmentGroup_eq, listedIn_eq_nil none, recencyWhere_of_nil]

/-- **Recency is the least distance over the window.** For validated groups and any history: the recency of
a map counts the rounds from the newest one back to the newest one on that map, that of a group of maps is
the least of those of its maps, and that of a group of environments is the least distance of the rounds with
one of them. When fewer of the same records are kept, each of them stays as it was, or becomes `never` if
nothing that it could count to is left. -/
theorem recency_window {α : Type} [Scalar α] {d : Document α} {p : Parameters α}
    (valid : Parameters.ofDocument d = .ok p) :
    (∀ h : History, WindowLaw p h) ∧
    ∀ (rs : List Play) (a b : Nat), b ≤ a →
      (∀ m, Remains (ofRecent rs b).plays (·.map = m)
        ((ofRecent rs a).recencyOfMap m) ((ofRecent rs b).recencyOfMap m)) ∧
      (∀ name, Remains (ofRecent rs b).plays (fun q => ∃ g ∈ p.mapGroups, g.name = name ∧ q.map ∈ g.members)
        ((ofRecent rs a).recencyOfMapGroup p name) ((ofRecent rs b).recencyOfMapGroup p name)) ∧
      ∀ name, Remains (ofRecent rs b).plays
        (fun q => ∃ g ∈ p.environmentGroups, g.name = name ∧ q.environment ∈ g.members)
        ((ofRecent rs a).recencyOfEnvironmentGroup p name)
        ((ofRecent rs b).recencyOfEnvironmentGroup p name) := by
  obtain ⟨mapNames, environmentNames⟩ := Parameters.ofDocument_names valid
  refine ⟨windowLaw mapNames environmentNames, fun rs a b less => ⟨?map, ?mapGroup, ?environmentGroup⟩⟩
  case map =>
    intro m
    unfold recencyOfMap
    simpa using recencyWhere_ofRecent rs less (·.map == m)
  case mapGroup =>
    intro name
    simp only [recencyOfMapGroup_eq, ← mem_listedIn_iff mapNames]
    simpa using recencyWhere_ofRecent rs less fun q => (listedIn p.mapGroups name).contains q.map
  case environmentGroup =>
    intro name
    simp only [recencyOfEnvironmentGroup_eq, ← mem_listedIn_iff environmentNames]
    simpa using recencyWhere_ofRecent rs less fun q =>
      (listedIn p.environmentGroups name).contains q.environment

/-- A group of two maps, one without any, and one of an environment. -/
def sparseDocument : Document Rat :=
  ⟨[("Top", ⟨80, 1 / 2, ["foy", "kursk"]⟩), ("Rest", ⟨40, 1 / 2, []⟩)], [("Day", ⟨100, 1 / 10, [.day]⟩)]⟩

/-- The validated groups of this document. -/
def sparseParameters : Parameters Rat :=
  ⟨[⟨"Top", 80, 1 / 2, ["foy", "kursk"]⟩, ⟨"Rest", 40, 1 / 2, []⟩], [⟨"Day", 100, 1 / 10, [.day]⟩]⟩

/-- Three rounds, not in order. -/
def sparsePlays : List Play :=
  [⟨"utah", .night, 12, none, .epoch⟩, ⟨"kursk", .dusk, 3, none, .epoch⟩, ⟨"foy", .day, 9, none, .epoch⟩]

/-- Among all three rounds the first group is as recent as the nearer of its maps, and its recency is lost
with the rounds on them; of an empty group there never was any. -/
theorem recency_window_sparse :
    Parameters.ofDocument sparseDocument = .ok sparseParameters ∧
      (ofRecent sparsePlays 3).recencyOfMapGroup sparseParameters "Top" = .rounds 3 ∧
      (ofRecent sparsePlays 3).recencyOfMap "foy" = .rounds 3 ∧
      (ofRecent sparsePlays 1).recencyOfMapGroup sparseParameters "Top" = .never ∧
      (ofRecent sparsePlays 3).recencyOfMapGroup sparseParameters "Rest" = .never := by
  have valid : Parameters.ofDocument sparseDocument = .ok sparseParameters := by decide +kernel
  obtain ⟨law, shorter⟩ := recency_window valid
  obtain ⟨_, mapGroup, _⟩ := shorter sparsePlays 3 1 (by decide)
  refine ⟨valid, by decide, ?foy, (mapGroup "Top").never.2 ?dropped, ?empty⟩
  case foy =>
    refine ((law (ofRecent sparsePlays 3)).map "foy" 3).2 ⟨12, 9, ?_, ?_, rfl⟩
    · exact ⟨by decide, by decide⟩
    · exact ⟨by decide, by decide⟩
  case dropped =>
    have left : (ofRecent sparsePlays 1).plays = [⟨"utah", .night, 12, none, .epoch⟩] := by decide
    rw [left]
    decide
  case empty => exact (law (ofRecent sparsePlays 3)).noMaps "Rest" (by decide)

end History

end MapBallot
