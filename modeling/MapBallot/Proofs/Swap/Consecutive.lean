import MapBallot.Proofs.Exclusion
import MapBallot.Proofs.Swap.Preview

/-!
# `MapBallot.Proofs.Swap.Consecutive` — the rules about consecutive modes, in cycles and previews

Cycles and previews narrow the catalog to a whitelist before they resolve the exclusion rules against
it. So the rules about consecutive modes hold if the whitelist lists the layer being played; if it does
not, then the layer is not found, and whatever the rules say, everything may follow it.

## Contents

* `exists_selects`, `Selects.realizes` — a cycle puts on the whitelist and reports what it selected;
* `selects_consecutive` — what is selected after a layer that the catalog lists;
* `hillLayer`, `selects_consecutive_listed`, `control_after_control` — a layer that the whitelist lists,
  and one that it does not.
-/

namespace MapBallot.Swap

open Remote (Call CallError Whitelist)
open Process (Path host)

variable {α σ : Type}

section

variable [Scalar α] {part : σ → State} {replace : σ → State → σ} {input : Input α}
  {settings : Settings} {stream : RandomStream} {t : List (Move σ)}
  {r : Except PrepareError (Selection α)}

/-- The layer being played is found among the offered layers if the whitelist lists it. -/
theorem Offer.currentLayer?_layers (o : Offer) (history : History) :
    Exclusions.currentLayer? history o.layers =
      (Exclusions.currentLayer? history o.catalog).filter fun l => o.bound.layerIds.contains l.id :=
  Exclusions.currentLayer?_filter _

/-- A cycle that comes to a report begins with reading and selecting, and does what that came to. -/
theorem begins_of_path {report : Report α}
    (run : Path (runExclusive host (Process.partCell part replace) input settings stream) t
      (.ok report)) :
    ∃ s reads tail r rest, t = .exchanged s (replace s (part s).entered) :: (reads.map Beat.move ++ tail) ∧
      Preparation input settings (part s).retained stream reads (r, rest) ∧
      ∀ found, Realizes found t r (.ok report) := by
  rcases path_runExclusive_iff.1 run with
    ⟨_, _, _, told⟩ | ⟨s, bs, ending, kept, seen, left, _, course, rfl, told⟩
  · cases told
  · have outcome : report.outcome = ending.outcome := by rw [Except.ok.inj told]
    -- What follows the course only replaces the state.
    have quiet : puts [.exchanged kept (replace kept ((part kept).remember ending.outcome.kind
        ending.baseline)), .exchanged seen seen, .exchanged left (replace left (part left).leave)] =
        [] := rfl
    obtain ⟨reads, r, rest, ⟨later, rfl⟩, preparation, realizes⟩ := course.begins outcome quiet
    rw [List.map_append, List.append_assoc] at realizes ⊢
    exact ⟨s, reads, _, r, rest, rfl, preparation, fun found => (realizes found).exchanged s _⟩

/-- Every cycle that comes to a report selects. -/
theorem exists_selects {report : Report α}
    (run : Path (runExclusive host (Process.partCell part replace) input settings stream) t
      (.ok report)) : ∃ r, Selects part replace input settings stream t r := by
  obtain ⟨s, reads, tail, r, rest, rfl, preparation, _⟩ := begins_of_path run
  exact ⟨r, .cycle run (path_prepare_iff.2 ⟨reads, rfl, preparation⟩)⟩

/-- It puts what it selected on the whitelist, if it comes so far, and reports it. -/
theorem Selects.realizes (selects : Selects part replace input settings stream t r) {report : Report α}
    (run : Path (runExclusive host (Process.partCell part replace) input settings stream) t (.ok report))
    (found : State) : Realizes found t r (.ok report) := by
  obtain ⟨s, reads, tail, r', rest, told, preparation, realizes⟩ := begins_of_path run
  rw [selects.eq_of_preparation told preparation]
  exact realizes found

/-- **The rules about consecutive modes hold if the whitelist lists the layer being played.** If it does
not, then selecting comes to the same as if the rules allowed everything. Every cycle that comes to a
report selects, every selection was drawn from one offer and no other, and what a cycle puts on the
whitelist and reports is what it selected. -/
theorem selects_consecutive :
    (∀ {t : List (Move σ)} {report : Report α},
      Path (runExclusive host (Process.partCell part replace) input settings stream) t (.ok report) →
      ∃ r, Selects part replace input settings stream t r) ∧
    ∀ {t : List (Move σ)} {r : Except PrepareError (Selection α)},
      Selects part replace input settings stream t r →
      (∀ selection, r = .ok selection →
        ∃ o, (∀ o', DrawsFrom part settings t o' ↔ o' = o) ∧ o.draw input stream = .ok selection) ∧
      (∀ report,
        Path (runExclusive host (Process.partCell part replace) input settings stream) t (.ok report) →
        ∀ found, Realizes found t r (.ok report)) ∧
      ∀ {o : Offer} {current : Layer}, DrawsFrom part settings t o →
        Exclusions.currentLayer? input.history o.catalog = some current →
        (current.id ∈ o.bound.layerIds → ∀ selection, r = .ok selection →
          ∀ s ∈ selection.candidates, o.policy.exclusions.MayFollow current s.layer) ∧
        (current.id ∉ o.bound.layerIds →
          r = (Offer.draw { o with policy := o.policy.lifted } input stream).mapError .choice) := by
  refine ⟨exists_selects, fun selects => ⟨?_, ?_, ?_⟩⟩
  · rintro selection rfl
    obtain ⟨o, draws, drawn⟩ := selects.drawn
    exact ⟨o, fun o' => ⟨fun other => other.unique draws, fun same => same ▸ draws⟩, drawn⟩
  · intro report run found
    exact selects.realizes run found
  · intro o current draws known
    -- The look-up goes to what is left of the catalog, so it finds the layer iff that is listed.
    have drawn := selects.eq_draw draws
    have found := o.currentLayer?_layers input.history
    rw [known] at found
    constructor
    · rintro listed selection rfl s hs
      rw [Option.filter_some, if_pos (by simpa using listed)] at found
      have left := layer_mem_of_selectPlan (mapError_eq_ok drawn) hs
      exact Exclusions.mayFollow_of_permits found (List.mem_filter.1 left).2
    · intro unlisted
      rw [Option.filter_some, if_neg (by simpa using unlisted)] at found
      have lifted := selectPlan_lifted found input.parameters o.plan o.policy stream
      rw [drawn]
      exact congrArg (fun result => result.1.mapError PrepareError.choice) lifted.symm

end

/-! ### A control layer is being played -/

/-- The layer being played. -/
def hillLayer : Layer := ⟨"hill400_skirmish", "hill400", .day, .control, none⟩

/-- A catalog of that layer, another control layer, and a warfare layer. -/
def hillCatalog : List Layer :=
  [hillLayer, ⟨"foy_skirmish", "foy", .day, .control, none⟩,
    ⟨"foy_warfare", "foy", .day, .warfare, none⟩]

/-- An input whose history ends with that layer. -/
def hillInput : Input Rat where
  parameters := ⟨[⟨"Mid", 80, 1 / 2, ["foy", "hill400"]⟩], [⟨"Day", 100, 1 / 10, [.day]⟩]⟩
  parametersVersion := 1
  history := .ofPlays [⟨"hill400", .day, 1, some "hill400_skirmish", .epoch⟩]
  roundIndex := none

/-- Settings that ask for a warfare layer and a control layer, with the default rules: no control layer
follows a control layer. -/
def hillSettings : Settings where
  plan := (Plan.empty.set .warfare 1).set .control 1
  useRemoteSettings := false

/-- What is offered under these settings if the whitelist lists these ids. -/
def hillOffer (ids : List String) : Offer :=
  ⟨hillCatalog, ⟨ids⟩, hillSettings.plan, hillSettings.policy⟩

theorem currentLayer?_hill :
    Exclusions.currentLayer? hillInput.history hillCatalog = some hillLayer := by decide +kernel

/-- A preview with these settings, on a remote tool with this whitelist. -/
theorem hillOffer_selects {ids : List String} {selection : Selection Rat}
    (drawn : ((hillOffer ids).draw hillInput soleStream).toOption = some selection) :
    ∃ t : List (Move State),
      Selects id (fun _ s => s) hillInput hillSettings soleStream t (.ok selection) ∧
      DrawsFrom id hillSettings t (hillOffer ids) := by
  have listed : hillCatalog ≠ [] := by decide
  have offered : Offered hillSettings ({} : State).retained _ (hillOffer ids) :=
    .told listed (.own rfl) (.read ⟨ids⟩)
  obtain ⟨path, draws⟩ := Offered.path_preview id (fun _ s => s) offered hillInput soleStream
  rw [eq_ok_of_toOption drawn] at path
  exact ⟨_, .preview path, draws⟩

/-- A whitelist that lists the layer being played. -/
def hillIds : List String := ["hill400_skirmish", "foy_skirmish", "foy_warfare"]

theorem drawn_hill : ((hillOffer hillIds).draw hillInput soleStream).toOption =
    some ⟨[⟨⟨"foy_warfare", "foy", .day, .warfare, none⟩, 7200⟩]⟩ := by decide +kernel

/-- A cycle on a remote tool with this whitelist. -/
theorem cycle_hill : ∃ (t : List (Move State)) (report : Report Rat),
    Path (runExclusive host Process.cell hillInput hillSettings soleStream) t (.ok report) ∧
      DrawsFrom id hillSettings t (hillOffer hillIds) := by
  have offered : Offered hillSettings none _ (hillOffer hillIds) :=
    .told (by decide) (.own rfl) (.read ⟨hillIds⟩)
  obtain ⟨left, preparation⟩ := offered.preparation_ok (eq_ok_of_toOption drawn_hill)
  have course := Course.swapped preparation (.read ⟨hillIds⟩) (.applied (.finished false)) (.ok ())
  have run : Path (runExclusive host Process.cell hillInput hillSettings soleStream) _ _ :=
    path_runExclusive_iff.2 (.inr ⟨{}, _, _, {}, {}, {}, rfl, course, rfl, rfl⟩)
  exact ⟨_, _, run, {}, _, [_, _], _, rfl, offered⟩

/-- If the whitelist lists the layer being played, then no control layer is selected, applied or
reported. -/
theorem selects_consecutive_listed :
    ∃ (t : List (Move State)) (report : Report Rat) (selection : Selection Rat) (o : Offer),
      Path (runExclusive host Process.cell hillInput hillSettings soleStream) t (.ok report) ∧
      Selects id (fun _ s => s) hillInput hillSettings soleStream t (.ok selection) ∧
      Realizes {} t (.ok selection) (.ok report) ∧ DrawsFrom id hillSettings t o ∧
      Exclusions.currentLayer? hillInput.history o.catalog = some hillLayer ∧
      selection.layerIds = ["foy_warfare"] ∧
      ∀ s ∈ selection.candidates, o.policy.exclusions.MayFollow hillLayer s.layer := by
  obtain ⟨t, report, run, draws⟩ := cycle_hill
  obtain ⟨r, selects⟩ := selects_consecutive.1 run
  obtain ⟨_, realizes, follows⟩ := selects_consecutive.2 selects
  have selected : r = .ok _ :=
    (selects.eq_draw draws).trans (congrArg (Except.mapError PrepareError.choice) (eq_ok_of_toOption drawn_hill))
  subst selected
  exact ⟨t, report, _, _, run, selects, realizes report run {}, draws, currentLayer?_hill, rfl,
    (follows draws currentLayer?_hill).1 (by decide) _ rfl⟩

/-- If it does not, then a control layer is selected to follow one, although the catalog lists the layer
being played, each id once, and the rules do not allow it. -/
theorem control_after_control :
    ∃ (t : List (Move State)) (selection : Selection Rat) (o : Offer) (current : Layer),
      Selects id (fun _ s => s) hillInput hillSettings soleStream t (.ok selection) ∧
      DrawsFrom id hillSettings t o ∧ (o.catalog.map (·.id)).Nodup ∧
      Exclusions.currentLayer? hillInput.history o.catalog = some current ∧
      current.gameMode = .control ∧ o.policy.exclusions.consecutiveSkirmishes = false ∧
      ∃ s ∈ selection.candidates, s.layer.gameMode = .control := by
  have drawn : ((hillOffer ["foy_skirmish", "foy_warfare"]).draw hillInput soleStream).toOption =
      some ⟨[⟨⟨"foy_warfare", "foy", .day, .warfare, none⟩, 7200⟩,
        ⟨⟨"foy_skirmish", "foy", .day, .control, none⟩, 7200⟩]⟩ := by decide +kernel
  obtain ⟨t, selects, draws⟩ := hillOffer_selects drawn
  exact ⟨t, _, _, hillLayer, selects, draws, by decide, currentLayer?_hill, rfl, by decide, _,
    .tail _ (.head _), rfl⟩

end MapBallot.Swap
