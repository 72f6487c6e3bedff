import MapBallot.Proofs.Scalar.Double
import MapBallot.Proofs.Selection.Words
import MapBallot.Random.ChaCha

/-!
# `MapBallot.Proofs.Selection.Extension` — more draws extend fewer

A choice takes one random word for each layer, in the order in which the layers are chosen. So a choice of
more layers begins with the choice of fewer, and the shares of the first modes of a plan do not depend on
what is asked of the others. A choice of a number of layers that fails takes no word at all: it fails before
the first draw, since positive scores can always be drawn from. This holds of doubles, too.

## Contents

* `eq_stream_of_select` — a choice that fails;
* `draws_extend` — all of it.
-/

namespace MapBallot

open Weighting (Parameters)

variable {α : Type} [Scalar α]

/-- A choice of a number of layers that fails takes no word. -/
theorem eq_stream_of_select [PositiveSums α] {parameters : Parameters α} {history : History}
    {catalog : List Layer} {policy : Policy} {stream rest : RandomStream} {n : Nat} {e : SelectionError}
    (h : select parameters history catalog n policy stream = (.error e, rest)) : rest = stream := by
  unfold select at h
  split at h
  · cases h
    rfl
  dsimp only at h
  by_cases short : (scoreCatalog parameters history catalog policy).length < n
  · rw [Selection.drawFrom_short short] at h
    cases h
    rfl
  · -- Every score that can be drawn with is positive, so the draws succeed.
    have positive : ∀ s ∈ scoreCatalog parameters history catalog policy,
        Scalar.lt (Scalar.ofNat 0) s.score = true := fun s hs =>
      (Bool.and_eq_true_iff.1 (scoreCatalog_drawable hs)).1
    rw [Selection.drawFrom_eq_picks (Nat.not_lt.1 short) positive] at h
    cases h

/-- **Draws extend each other**, whether scores are computed in doubles or in exact fractions. The same
words draw the same layers with the same scores: fewer layers are the first of more, and the shares of the
first modes of a plan are the same whatever is asked of the modes behind them. A choice takes one word for
each layer, and a choice of a number of layers that fails takes none. -/
theorem draws_extend [PositiveSums α] (parameters : Parameters α) (history : History)
    (catalog : List Layer) (policy : Policy) (stream : RandomStream) :
    (∀ n m fewer more rest rest', n ≤ m →
      select parameters history catalog n policy stream = (.ok fewer, rest) →
      select parameters history catalog m policy stream = (.ok more, rest') →
      fewer.candidates = more.candidates.take n) ∧
    (∀ n chosen rest, select parameters history catalog n policy stream = (.ok chosen, rest) →
      chosen.size = n ∧ rest = stream.skip chosen.size) ∧
    (∀ n e rest, select parameters history catalog n policy stream = (.error e, rest) →
      rest = stream) ∧
    (∀ plan plan' modes later chosen chosen' rest rest', modes ++ later = GameMode.all →
      (∀ m ∈ modes, (restrictedPlan history catalog plan policy).count m =
        (restrictedPlan history catalog plan' policy).count m) →
      selectPlan parameters history catalog plan policy stream = (.ok chosen, rest) →
      selectPlan parameters history catalog plan' policy stream = (.ok chosen', rest') →
      chosen.candidates.filter (fun s => s.layer.gameMode ∈ modes) =
        chosen'.candidates.filter (fun s => s.layer.gameMode ∈ modes)) ∧
    (∀ plan chosen rest,
      selectPlan parameters history catalog plan policy stream = (.ok chosen, rest) →
      rest = stream.skip chosen.size) := by
  refine ⟨?fewer, ?taken, fun n e rest => eq_stream_of_select, ?modes, fun plan chosen rest h =>
    (eq_planPicks_of_selectPlan h).2.2⟩
  case fewer =>
    intro n m fewer more rest rest' h hn hm
    obtain ⟨_, picked, _⟩ := eq_picks_of_select hn
    obtain ⟨enough, picked', _⟩ := eq_picks_of_select hm
    rw [picked, picked']
    exact Selection.picks_words_eq_take h enough stream
  case taken =>
    intro n chosen rest h
    obtain ⟨enough, picked, rfl⟩ := eq_picks_of_select h
    have length : chosen.size = n := by
      rw [Selection.size, picked, Selection.length_picks_words enough]
    exact ⟨length, by rw [length]⟩
  case modes =>
    intro plan plan' modes later chosen chosen' rest rest' split same h h'
    have distinct : (modes ++ later).Nodup := by
      rw [split]
      decide
    rw [(eq_planPicks_of_selectPlan h).1, (eq_planPicks_of_selectPlan h').1, ← split,
      Selection.filter_planPicks_first distinct, Selection.filter_planPicks_first distinct]
    exact Selection.planPicks_congr same

/-- Two maps by day, with scores in doubles. -/
def dayDoubles : Parameters Float :=
  ⟨[⟨"Top", 80, 0.5, ["foy", "kursk"]⟩], [⟨"Day", 100, 0.1, [.day]⟩]⟩

/-- Three layers on these maps. -/
def dayLayers : List Layer :=
  [⟨"foy_warfare", "foy", .day, .warfare, none⟩, ⟨"kursk_warfare", "kursk", .day, .warfare, none⟩,
    ⟨"foy_offensive", "foy", .day, .offensive, some .allies⟩]

/-- With the words of the seed 7, the first of two layers is the one that is chosen alone, a warfare layer is
the same one whether an offensive layer is asked for or not, and asking for four layers takes no word. -/
theorem draws_extend_doubles :
    ∃ one two warfare both : Selection Float,
      (select dayDoubles .empty dayLayers 1 .default (.ofSeed 7)).1 = .ok one ∧
      (select dayDoubles .empty dayLayers 2 .default (.ofSeed 7)).1 = .ok two ∧
      two.layerIds = ["foy_offensive", "foy_warfare"] ∧ one.candidates = two.candidates.take 1 ∧
      (select dayDoubles .empty dayLayers 2 .default (.ofSeed 7)).2 = (RandomStream.ofSeed 7).skip 2 ∧
      (selectPlan dayDoubles .empty dayLayers (Plan.empty.set .warfare 1) .default (.ofSeed 7)).1 =
        .ok warfare ∧
      (selectPlan dayDoubles .empty dayLayers ((Plan.empty.set .warfare 1).set .offensive 1) .default
        (.ofSeed 7)).1 = .ok both ∧
      both.layerIds = ["foy_warfare", "foy_offensive"] ∧
      warfare.candidates.filter (fun s => s.layer.gameMode ∈ [GameMode.warfare]) =
        both.candidates.filter (fun s => s.layer.gameMode ∈ [GameMode.warfare]) ∧
      ∃ e, select dayDoubles .empty dayLayers 4 .default (.ofSeed 7) = (.error e, .ofSeed 7) := by
  obtain ⟨begins, taken, untaken, modes, _⟩ :=
    draws_extend dayDoubles .empty dayLayers .default (.ofSeed 7)
  obtain ⟨one, rest₁, h₁, _⟩ := exists_ok_of_layerIds
    (select dayDoubles .empty dayLayers 1 .default (.ofSeed 7)) ["foy_offensive"] (by decide +kernel)
  obtain ⟨two, rest₂, h₂, ids₂⟩ := exists_ok_of_layerIds
    (select dayDoubles .empty dayLayers 2 .default (.ofSeed 7)) ["foy_offensive", "foy_warfare"]
    (by decide +kernel)
  obtain ⟨warfare, rest₃, h₃, _⟩ := exists_ok_of_layerIds
    (selectPlan dayDoubles .empty dayLayers (Plan.empty.set .warfare 1) .default (.ofSeed 7))
    ["foy_warfare"] (by decide +kernel)
  obtain ⟨both, rest₄, h₄, ids₄⟩ := exists_ok_of_layerIds
    (selectPlan dayDoubles .empty dayLayers ((Plan.empty.set .warfare 1).set .offensive 1) .default
      (.ofSeed 7)) ["foy_warfare", "foy_offensive"] (by decide +kernel)
  obtain ⟨size, rest⟩ := taken 2 two rest₂ h₂
  refine ⟨one, two, warfare, both, by rw [h₁], by rw [h₂], ids₂, ?_, ?_, by rw [h₃], by rw [h₄], ids₄, ?_,
    ?_⟩
  · exact begins 1 2 one two rest₁ rest₂ (by decide) h₁ h₂
  · rw [h₂, rest, size]
  · exact modes _ _ [.warfare] _ warfare both rest₃ rest₄ rfl (by decide +kernel) h₃ h₄
  · have none : (select dayDoubles .empty dayLayers 4 .default (.ofSeed 7)).1.toOption = none := by
      decide +kernel
    generalize h : select dayDoubles .empty dayLayers 4 .default (.ofSeed 7) = result at none
    obtain ⟨e | four, rest⟩ := result
    · exact ⟨e, by rw [untaken 4 e rest h]⟩
    · cases none

end MapBallot
