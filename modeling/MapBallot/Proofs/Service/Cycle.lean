import MapBallot.Proofs.Selection.Words
import MapBallot.Proofs.Swap.Course
import MapBallot.Service.Basic

/-!
# `MapBallot.Proofs.Service.Cycle` — a cycle of a shared service

A cycle goes by what it found in the service when it began. It changes the state and the tally of the
cycles, and nothing else; if nobody else runs cycles, then it comes to a report, and the report belongs
to the newest round of the history that it was given.

## Contents

* `keeps_cycleWith` — what a cycle leaves alone;
* `path_runCycle_iff`, `path_cycleWith`, `path_cycleWith_cases` — the paths of a cycle;
* `Took`, `cycleWith_reports` — a cycle comes to a report, by a course for what it found in force;
* `reportOf`, `afterEnding`, `cycleSteps`, `path_cycleSteps` — what a cycle does that nobody disturbs;
* `threeService`, `Draws.preparation`, `Draws.course` — cycles of a service that offers three layers.
-/

namespace MapBallot.Service

open Process (Keeps Path host)
open Remote (CallError Whitelist)
open Swap (Beat Busy Ending Purpose Report)

/-- What rounds are recorded in, and how the service is run. -/
def rounds (s : Service) : Tracker × Service.Settings := (s.tracker, s.settings)

/-- A cycle leaves the history and the settings alone. -/
theorem keeps_cycleWith (s : Service) (entropy : RandomStream) :
    (s.cycleWith host Process.cell entropy).Keeps rounds := by
  unfold cycleWith Swap.runExclusive swapCell
  rw [Process.cell_focus]
  refine Process.keeps_bind ?_ fun answer => ?_
  · refine Process.keeps_bind (Process.keeps_partExchange fun _ => rfl) fun entered => ?_
    cases entered.enter with
    | error e => exact Process.keeps_pure _
    | ok state =>
      refine Process.keeps_bind (Process.keeps_runOn _) fun ending => ?_
      refine Process.keeps_bind (Process.keeps_partUpdate fun _ => rfl) fun _ => ?_
      refine Process.keeps_bind Process.keeps_partRead fun seen => ?_
      refine Process.keeps_bind (Process.keeps_pure _) fun _ => ?_
      exact Process.keeps_bind (Process.keeps_partUpdate fun _ => rfl) fun _ => Process.keeps_pure _
  · cases answer with
    | error e => exact Process.keeps_pure _
    | ok report =>
      exact Process.keeps_bind (Process.keeps_partUpdate fun _ => rfl) fun _ => Process.keeps_pure _

/-- A cycle of the service is one of its cycles' state, and is added to the tally then. -/
theorem path_cycleWith (s y : Service) (entropy : RandomStream) {t : List (Move Service)}
    {report : Report Float}
    (path : Path (Swap.runExclusive host
      (Process.partCell swap fun s swap => { s with swap := swap }) s.input s.settings.swap
      (s.cycleStream entropy)) t (.ok report)) :
    Path (s.cycleWith host Process.cell entropy)
      (t ++ [.exchanged y { y with metrics := y.metrics.observe report }]) (.ok report) := by
  unfold cycleWith swapCell
  rw [Process.cell_focus]
  exact .bind path (Process.path_bind_iff.2 ⟨[_], [], (), rfl,
    Process.path_partUpdate_iff.2 ⟨y, rfl⟩, Process.path_pure_iff.2 ⟨rfl, rfl⟩⟩)

/-- What is in force is looked at once, when the cycle begins. -/
theorem path_runCycle_iff {entropy : RandomStream} {t : List (Move Service)}
    {answer : Except Busy (Report Float)} :
    Path (runCycle host Process.cell entropy) t answer ↔ ∃ s rest, t = .exchanged s s :: rest ∧
      Path (s.cycleWith host Process.cell entropy) rest answer := by
  unfold runCycle
  constructor
  · intro path
    obtain ⟨_, rest, _, rfl, read, cycle⟩ := Process.path_bind_iff.1 path
    obtain ⟨s, rfl, seen⟩ := Process.path_partRead_iff.1 read
    rw [seen] at cycle
    exact ⟨s, rest, rfl, cycle⟩
  · rintro ⟨s, rest, rfl, cycle⟩
    exact .bind (Process.path_partRead_iff.2 ⟨s, rfl, rfl⟩) cycle

/-- A cycle of the service only looks at its state if a cycle is in progress. Otherwise it takes one of
the courses of `Swap.Course`, and its report is added to the tally when it has left. -/
theorem path_cycleWith_cases {s : Service} {entropy : RandomStream} {t : List (Move Service)}
    {answer : Except Busy (Report Float)}
    (path : Path (s.cycleWith host Process.cell entropy) t answer) :
    (∃ x, x.swap.busy = true ∧ t = [.exchanged x { x with swap := x.swap.entered }] ∧
      answer = .error .busy) ∨
    ∃ x bs ending kept seen left y, ∃ report : Report Float, x.swap.busy = false ∧
      Swap.Course s.input s.settings.swap x.swap.retained (s.cycleStream entropy) bs ending ∧
      report = ⟨x.swap.started + 1, s.tracker.history.latestIndex?, s.weighting.version,
        ending.outcome, seen.swap.whitelist⟩ ∧
      t = .exchanged x { x with swap := x.swap.entered } :: (bs.map Beat.move ++
        [.exchanged kept
            { kept with swap := kept.swap.remember ending.outcome.kind ending.baseline },
          .exchanged seen seen, .exchanged left { left with swap := left.swap.leave },
          .exchanged y { y with metrics := y.metrics.observe report }]) ∧
      answer = .ok report := by
  unfold cycleWith swapCell at path
  rw [Process.cell_focus] at path
  obtain ⟨t₁, t₂, result, rfl, run, rest⟩ := Process.path_bind_iff.1 path
  rcases Swap.path_runExclusive_iff.1 run with
    ⟨x, busy, rfl, rfl⟩ | ⟨x, bs, ending, kept, seen, left, idle, course, rfl, rfl⟩
  · obtain ⟨rfl, rfl⟩ := Process.path_pure_iff.1 rest
    exact .inl ⟨x, busy, rfl, rfl⟩
  · obtain ⟨t₃, t₄, _, rfl, tally, done⟩ := Process.path_bind_iff.1 rest
    obtain ⟨y, rfl⟩ := Process.path_partUpdate_iff.1 tally
    obtain ⟨rfl, rfl⟩ := Process.path_pure_iff.1 done
    refine .inr ⟨x, bs, ending, kept, seen, left, y, _, idle, course, rfl, ?_, rfl⟩
    rw [List.append_nil, List.cons_append, List.append_assoc]
    rfl

/-- A cycle that found `s` in force: it took a course for the input that this gives, made the calls of the
course and no others, and reports what the course came to. -/
inductive Took (s : Service) : List (Move Service) → Report Float → Prop
  | intro {x seen : Service} {entropy : RandomStream} {bs : List Beat} {ending : Ending Float}
      {tail : List (Move Service)}
      (course : Swap.Course s.input s.settings.swap x.swap.retained (s.cycleStream entropy) bs ending)
      (rest : ∀ m ∈ tail, ∃ y z, m = .exchanged y z) :
      Took s (.exchanged x { x with swap := x.swap.entered } :: (bs.map Beat.move ++ tail))
        ⟨x.swap.started + 1, s.input.roundIndex, s.input.parametersVersion, ending.outcome,
          seen.swap.whitelist⟩

/-- **A cycle comes to a report** if no cycle is in progress when it begins and nobody else runs one
meanwhile. No cycle is in progress afterwards. -/
theorem cycleWith_reports {s : Service} {entropy : RandomStream} {t : List (Move Service)}
    {answer : Except Busy (Report Float)} {busy : Bool}
    (path : Path (s.cycleWith host Process.cell entropy) t answer)
    (alone : Chain (fun s => s.swap.busy) t false busy) :
    ∃ report, answer = .ok report ∧ Took s t report ∧ busy = false := by
  rcases path_cycleWith_cases path with
    ⟨x, entered, rfl, rfl⟩ | ⟨x, bs, ending, kept, seen, left, y, report, _, course, rfl, rfl, rfl⟩
  · exact absurd (alone.1.symm.trans entered) (by decide)
  · -- The cycle left before it was added to the tally.
    obtain ⟨_, _, last⟩ := chain_append_iff.1 alone.2
    obtain ⟨_, _, _, found, left⟩ := last
    exact ⟨_, rfl, .intro course (by simp), left.symm.trans found⟩

/-! ## A cycle that nobody disturbs -/

/-- What a cycle with this ending reports. -/
def reportOf (s : Service) (ending : Ending Float) : Report Float where
  cycle := s.swap.started + 1
  roundIndex := s.tracker.history.latestIndex?
  parametersVersion := s.weighting.version
  outcome := ending.outcome
  whitelist := (s.swap.entered.remember ending.outcome.kind ending.baseline).whitelist

/-- The service while a cycle is in progress. -/
def inCycle (s : Service) : Service := { s with swap := s.swap.entered }

/-- The service once the cycle knows what it could not restore. -/
def remembered (s : Service) (ending : Ending Float) : Service :=
  { s with swap := s.swap.entered.remember ending.outcome.kind ending.baseline }

/-- The service after the cycle. -/
def afterEnding (s : Service) (ending : Ending Float) : Service :=
  { s with
    swap := (s.remembered ending).swap.leave
    metrics := s.metrics.observe (s.reportOf ending) }

/-- The steps of a cycle with these calls and this ending. -/
def cycleSteps (s : Service) (bs : List Beat) (ending : Ending Float) : List (Move Service) :=
  let left : Service := { s with swap := (s.remembered ending).swap.leave }
  .exchanged s s.inCycle :: (bs.map Beat.move ++
    [.exchanged s.inCycle (s.remembered ending),
      .exchanged (s.remembered ending) (s.remembered ending),
      .exchanged (s.remembered ending) left, .exchanged left (s.afterEnding ending)])

/-- **Undisturbed, a cycle can take each of its courses.** -/
theorem path_cycleSteps {s : Service} (entropy : RandomStream) {bs : List Beat}
    {ending : Ending Float} (idle : s.swap.busy = false)
    (course : Swap.Course s.input s.settings.swap s.swap.retained (s.cycleStream entropy) bs ending) :
    Path (s.cycleWith host Process.cell entropy) (s.cycleSteps bs ending) (.ok (s.reportOf ending)) := by
  have steps := path_cycleWith s { s with swap := (s.remembered ending).swap.leave } entropy
    (Swap.path_runExclusive_iff.2 (.inr ⟨s, bs, ending, s.inCycle, s.remembered ending,
      s.remembered ending, idle, course, rfl, rfl⟩))
  rw [List.cons_append, List.append_assoc] at steps
  exact steps

theorem chain_cycleSteps (s : Service) (bs : List Beat) (ending : Ending Float) :
    Chain id (s.cycleSteps bs ending) s (s.afterEnding ending) :=
  ⟨rfl, chain_append_iff.2 ⟨_, Swap.chain_beats.2 rfl, rfl, rfl, rfl, rfl, rfl⟩⟩

/-! ### A service that offers three layers -/

/-- Three layers on three maps. -/
def threeLayers : List Layer :=
  [⟨"foy_warfare", "foy", .day, .warfare, none⟩, ⟨"hill400_warfare", "hill400", .day, .warfare, none⟩,
    ⟨"kursk_warfare", "kursk", .day, .warfare, none⟩]

def threeIds : List String := threeLayers.map Layer.id

/-- One of the three is asked for. -/
def threeSettings : Swap.Settings :=
  { plan := Plan.empty.set .warfare 1, useRemoteSettings := false }

/-- A service for these maps. -/
def threeService : Service where
  settings := { swap := threeSettings }
  weighting :=
    { version := 1
      parameters := ⟨[⟨"Top", 80, 0.5, ["foy", "hill400", "kursk"]⟩], [⟨"Day", 100, 0.1, [.day]⟩]⟩ }
  tracker := .withRetention 10

/-- The notice of a round on the first of the three. -/
def foyStart : RoundStart := ⟨"foy", .day, 7, some "foy_warfare"⟩

/-- How the whitelist is read, if nothing is retained. -/
def threeReads (purpose : Purpose) : Option Whitelist → List Beat
  | some _ => []
  | none => [.call purpose .getWhitelist (.ok ⟨threeIds⟩)]

/-- The steps of a cycle that puts `ids` on the whitelist, where restoring is answered last. -/
def threeBeats (retained : Option Whitelist) (ids : List String) (answer : Except CallError Unit) :
    List Beat :=
  .call .catalog .catalog (.ok threeLayers) :: (threeReads .bound retained ++
    threeReads .snapshot retained ++ [.poll false, .call .apply (.setWhitelist ids) (.ok ()),
      .settle false, .call .reset .reset (.ok ()), .settle false,
      .call .restore (.setWhitelist threeIds) answer])

theorem anchored_three (purpose : Purpose) {retained : Option Whitelist}
    (known : ∀ w ∈ retained, w = ⟨threeIds⟩) :
    Swap.Anchored purpose retained (threeReads purpose retained) ⟨threeIds⟩ := by
  cases retained with
  | none => exact .read ⟨threeIds⟩
  | some w =>
    obtain rfl := known w rfl
    exact .kept ⟨threeIds⟩

/-- Random words that are all the same. -/
def zeros : RandomStream := ⟨fun _ => 0, 0⟩

/-- Of the three layers, these are drawn, and no other whitelist than theirs is retained. -/
structure Draws (input : Swap.Input Float) (retained : Option Whitelist) (stream : RandomStream)
    (ids : List String) : Prop where
  known : ∀ w ∈ retained, w = ⟨threeIds⟩
  drawn : (selectPlan input.parameters input.history threeLayers threeSettings.plan
    threeSettings.policy stream).1.toOption.map Selection.layerIds = some ids

section

variable {input : Swap.Input Float} {retained : Option Whitelist} {stream : RandomStream}
  {ids : List String}

/-- Reading and selecting, if all calls are answered. -/
theorem Draws.preparation (h : Draws input retained stream ids) :
    ∃ selection left, selection.layerIds = ids ∧
      Swap.Preparation input threeSettings retained stream
        (.call .catalog .catalog (.ok threeLayers) :: threeReads .bound retained)
        (.ok selection, left) := by
  obtain ⟨selection, left, chosen, rfl⟩ := exists_ok_of_layerIds _ ids h.drawn
  have offered : Swap.withinWhitelist threeLayers ⟨threeIds⟩ = threeLayers := by decide
  have drawing : Swap.Drawing input threeSettings retained threeLayers stream _ _ :=
    .chosen (.own rfl) (anchored_three .bound h.known)
  rw [Swap.choice, offered, chosen] at drawing
  exact ⟨selection, left, rfl, .catalogListed (by decide) drawing⟩

/-- A cycle whose calls are all answered, but perhaps the last one. -/
theorem Draws.course (h : Draws input retained stream ids) (answer : Except CallError Unit) :
    ∃ selection left, selection.layerIds = ids ∧
      Swap.Course input threeSettings retained stream (threeBeats retained ids answer)
        ⟨.ofRestore selection (.ok ()) answer, some ⟨threeIds⟩, left⟩ := by
  obtain ⟨selection, left, rfl, preparation⟩ := h.preparation
  have course := Swap.Course.swapped preparation (anchored_three .snapshot h.known)
    (.applied (.finished false)) answer
  refine ⟨selection, left, rfl, ?_⟩
  simpa only [threeBeats, List.nil_append, List.cons_append, List.append_assoc] using course

end

end MapBallot.Service
