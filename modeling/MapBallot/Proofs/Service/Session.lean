import Mathlib.Algebra.BigOperators.Group.List.Basic
import Mathlib.Algebra.GroupWithZero.Nat
import MapBallot.Alert.Envelope
import MapBallot.Proofs.History.Runs
import MapBallot.Proofs.Service.Cycle

/-!
# `MapBallot.Proofs.Service.Session` — what is told of the cycles of a whole run

Four places tell what became of the cycles: the state that is kept from one to the next, the reports, the
tally, and the alerts. Each derives it on its own. This module states that they agree, however many
rounds are recorded, weightings installed and cycles run one after the other, and whatever the remote tool
does: the tally is that of the reports, and what a report says of the whitelist follows from its outcome
and from what was said before.

## Contents

* `WhitelistState.next`, `State.whitelist_remember` — what is believed of the whitelist after an outcome;
* `Tells`, `tells_of_next` — what a report may say of it, and with which alert;
* `Metrics.tally` — the tally of some reports; `cycles_tally`, `outcomes_tally` and others;
* `Cycled`, `runCycle_reports` — what one cycle reports and leaves;
* `Turn`, `Session`, `Session.kept` — a whole run;
* `Agrees`, `TurnLaw`, `session_reports` — what holds after every run;
* `Session.course`, `session_reports_unrestored` — a whitelist that a later cycle restores.
-/

namespace MapBallot

open Remote (Whitelist)
open Process (Path host)

namespace Swap

/-! ## What is believed of the whitelist -/

/-- What is believed of the whitelist after an outcome, by what was believed before. -/
def WhitelistState.next (before : WhitelistState) : OutcomeKind → WhitelistState
  | .succeeded | .applyFailed => .baseline
  | .applyFailedUnrecovered | .restoreFailedAfterSuccess => .narrowed
  | .selectionFailed | .snapshotFailed => before

/-- What is believed of the whitelist follows from the outcome, as long as there is something to restore
where it was not restored. -/
theorem State.whitelist_remember {s : State} {kind : OutcomeKind} {baseline : Option Whitelist}
    (found : kind.isUnrecovered = true → baseline.isSome = true) :
    (s.remember kind baseline).whitelist = s.whitelist.next kind := by
  cases kind with
  | applyFailedUnrecovered | restoreFailedAfterSuccess => exact if_pos (found rfl)
  | succeeded | applyFailed | selectionFailed | snapshotFailed => rfl

variable {α : Type}

/-- A cycle that ends with the whitelist away from what it was has found what it was. -/
theorem Course.baseline_isSome [Scalar α] {input : Input α} {settings : Settings}
    {retained : Option Whitelist} {stream : RandomStream} {bs : List Beat} {ending : Ending α}
    (course : Course input settings retained stream bs ending)
    (unrecovered : ending.outcome.kind.isUnrecovered = true) : ending.baseline.isSome = true := by
  cases course with
  | swapped => rfl
  | unprepared | unanchored => cases unrecovered

/-- What a report tells of the whitelist, where `before` was told of it last. -/
structure Tells (before : WhitelistState) (r : Report α) : Prop where
  /-- With a critical alert, the whitelist is narrowed. -/
  critical : (Alert.Envelope.ofReport r).severity = .critical → r.whitelist = .narrowed
  /-- It becomes narrowed with a critical alert only. -/
  narrowed : before = .baseline → r.whitelist = .narrowed →
    (Alert.Envelope.ofReport r).severity = .critical
  /-- A cycle that came to an end before the whitelist was replaced has no news of it. -/
  stays : r.outcome.kind = .selectionFailed ∨ r.outcome.kind = .snapshotFailed → r.whitelist = before
  /-- The whitelist is back after a restore only. -/
  back : before = .narrowed → r.whitelist = .baseline →
    r.outcome.kind = .succeeded ∨ r.outcome.kind = .applyFailed

/-- An alert is critical if the whitelist may be away from what it was. -/
theorem severity_eq_critical_iff {kind : OutcomeKind} :
    Alert.Severity.ofOutcome kind = .critical ↔ kind.isUnrecovered = true := by
  cases kind <;> decide

theorem tells_of_next {before : WhitelistState} {r : Report α}
    (h : r.whitelist = before.next r.outcome.kind) : Tells before r := by
  have severity : (Alert.Envelope.ofReport r).severity = .critical ↔
      r.outcome.kind.isUnrecovered = true := severity_eq_critical_iff
  refine ⟨?critical, ?narrowed, ?stays, ?back⟩
  case critical =>
    rw [severity, h]
    intro unrecovered
    cases kind : r.outcome.kind with
    | applyFailedUnrecovered | restoreFailedAfterSuccess => rfl
    | succeeded | applyFailed | selectionFailed | snapshotFailed =>
      rw [kind] at unrecovered
      cases unrecovered
  case narrowed =>
    rintro rfl narrowed
    rw [severity]
    rw [h] at narrowed
    cases kind : r.outcome.kind with
    | applyFailedUnrecovered | restoreFailedAfterSuccess => rfl
    | succeeded | applyFailed | selectionFailed | snapshotFailed =>
      rw [kind] at narrowed
      cases narrowed
  case stays =>
    rintro (failed | failed) <;> rw [h, failed] <;> rfl
  case back =>
    rintro rfl back
    rw [h] at back
    cases kind : r.outcome.kind with
    | succeeded => exact .inl rfl
    | applyFailed => exact .inr rfl
    | selectionFailed | snapshotFailed | applyFailedUnrecovered | restoreFailedAfterSuccess =>
      rw [kind] at back
      cases back

/-- What was told of the whitelist last. -/
def lastTold (rs : List (Report α)) : WhitelistState :=
  (rs.getLast?.map Report.whitelist).getD .baseline

@[simp] theorem lastTold_concat (rs : List (Report α)) (r : Report α) :
    lastTold (rs ++ [r]) = r.whitelist := by
  simp [lastTold]

/-! ## The tally of some reports -/

namespace Metrics

/-- The tally of some reports. -/
def tally (rs : List (Report α)) : Metrics := rs.foldl observe none

theorem tally_concat (rs : List (Report α)) (r : Report α) :
    tally (rs ++ [r]) = (tally rs).observe r := by
  simp [tally]

theorem outcomes_observe (m : Metrics) (r : Report α) (k : OutcomeKind) :
    (m.observe r).outcomes k = m.outcomes k + if k = r.outcome.kind then 1 else 0 := rfl

theorem cycles_tally (rs : List (Report α)) : (tally rs).cycles = rs.length := by
  induction rs using List.reverseRecOn with
  | nil => rfl
  | append_singleton rs r ih => rw [tally_concat, observe, ih, List.length_append, List.length_singleton]

theorem outcomes_tally (rs : List (Report α)) (k : OutcomeKind) :
    (tally rs).outcomes k = rs.countP fun r => r.outcome.kind = k := by
  induction rs using List.reverseRecOn with
  | nil => rfl
  | append_singleton rs r ih =>
    rw [tally_concat, outcomes_observe, ih, List.countP_append, List.countP_singleton]
    by_cases h : r.outcome.kind = k
    · simp [h]
    · simp [h, Ne.symm h]

/-- The outcomes that did not occur make no difference to the sum. -/
theorem sum_occurred (m : Metrics) :
    (m.occurred.map Prod.snd).sum = (OutcomeKind.all.map m.outcomes).sum := by
  have values : m.occurred.map Prod.snd = (OutcomeKind.all.map m.outcomes).filter (· != 0) := by
    rw [occurred, List.filter_map, List.map_map, List.filter_map]
    rfl
  rw [values, List.sum_filter_bne_zero]

theorem sum_occurred_tally (rs : List (Report α)) :
    ((tally rs).occurred.map Prod.snd).sum = rs.length := by
  rw [sum_occurred]
  induction rs using List.reverseRecOn with
  | nil => rfl
  | append_singleton rs r ih =>
    rw [tally_concat, List.length_append, List.length_singleton, ← ih]
    -- One of the six counts is one more.
    cases h : r.outcome.kind <;> simp [observe, OutcomeKind.all, h] <;> omega

theorem lastCycle_tally (rs : List (Report α)) :
    (tally rs).lastCycle = rs.getLast?.map Report.cycle := by
  cases rs using List.reverseRecOn with
  | nil => rfl
  | append_singleton rs r => rw [tally_concat, List.getLast?_concat]; rfl

theorem lastOutcome_tally (rs : List (Report α)) :
    (tally rs).lastOutcome = rs.getLast?.map fun r => r.outcome.kind := by
  cases rs using List.reverseRecOn with
  | nil => rfl
  | append_singleton rs r => rw [tally_concat, List.getLast?_concat]; rfl

theorem whitelist_tally (rs : List (Report α)) : (tally rs).whitelist = lastTold rs := by
  cases rs using List.reverseRecOn with
  | nil => rfl
  | append_singleton rs r => rw [tally_concat, lastTold_concat]; rfl

theorem lastRoundIndex_tally (rs : List (Report α)) :
    (tally rs).lastRoundIndex = (rs.filterMap Report.roundIndex).getLast? := by
  induction rs using List.reverseRecOn with
  | nil => rfl
  | append_singleton rs r ih =>
    rw [tally_concat, observe, ih, List.filterMap_append]
    cases h : r.roundIndex <;> simp [h]

end Metrics

end Swap

namespace Service

open Swap (Busy Report Beat Tells lastTold Metrics)

/-! ## One cycle -/

/-- What a cycle that found `s` reports, and what it leaves. -/
structure Cycled (s : Service) (r : Report Float) (x : Service) : Prop where
  cycle : r.cycle = s.swap.started + 1
  round : r.roundIndex = s.tracker.history.latestIndex?
  version : r.parametersVersion = s.weighting.version
  whitelist : r.whitelist = s.swap.whitelist.next r.outcome.kind
  believed : x.swap.whitelist = r.whitelist
  started : x.swap.started = r.cycle
  idle : x.swap.busy = false
  metrics : x.metrics = s.metrics.observe r
  tracker : x.tracker = s.tracker

/-- **A cycle that is run alone comes to a report.** -/
theorem runCycle_reports {s x : Service} {entropy : RandomStream} {t : List (Move Service)}
    {answer : Except Busy (Report Float)} (idle : s.swap.busy = false)
    (path : Path (runCycle host Process.cell entropy) t answer) (alone : Chain id t s x) :
    ∃ r, answer = .ok r ∧ Cycled s r x := by
  obtain ⟨found, rest, rfl, cycle⟩ := path_runCycle_iff.1 path
  obtain rfl : s = found := alone.1.symm
  rcases path_cycleWith_cases cycle with
    ⟨y, busy, rfl, rfl⟩ | ⟨y, bs, ending, kept, seen, left, last, report, _, course, rfl, rfl, rfl⟩
  · obtain rfl : s = y := alone.2.1.symm
    exact absurd (idle.symm.trans busy) (by decide)
  · obtain rfl : s = y := alone.2.1.symm
    -- Nobody else changes the service, so each of the steps finds what the one before left.
    obtain ⟨_, beats, steps⟩ := chain_append_iff.1 alone.2.2
    obtain rfl := Swap.chain_beats.1 beats
    obtain ⟨rfl, rfl, rfl, rfl, rfl⟩ := steps
    have entered : s.swap.entered = { s.swap with busy := true, started := s.swap.started + 1 } :=
      Swap.State.entered_idle idle
    refine ⟨_, rfl, ⟨rfl, rfl, rfl, ?whitelist, rfl, ?started, rfl, rfl, rfl⟩⟩
    case whitelist =>
      show (s.swap.entered.remember ending.outcome.kind ending.baseline).whitelist = _
      rw [Swap.State.whitelist_remember course.baseline_isSome, entered]
      rfl
    case started =>
      show s.swap.entered.started = _
      rw [entered]

/-! ## A whole run -/

/-- A cycle of a run: the rounds that were to be recorded before it, the service that it found, what it
answered, and the service that it left. -/
structure Turn where
  rounds : List Play
  before : Service
  answer : Except Busy (Report Float)
  after : Service

/-- Rounds recorded, weightings replaced and cycles run one after the other, from a service that has not
run any. A replacement may fail, or put any generation in force. The rounds that were to be recorded and
the cycles are listed. -/
inductive Session (start : Service) : List Play → List Turn → Service → Prop
  | start (fresh : start.swap = {}) (untallied : start.metrics = .none) : Session start [] [] start
  | round {rounds : List Play} {past : List Turn} {s : Service} (session : Session start rounds past s)
      (e : RoundStart) (now : Instant) :
      Session start (rounds ++ [e.play now]) past (s.recordRound e now).2
  | replacement {rounds : List Play} {past : List Turn} {s : Service}
      (session : Session start rounds past s) (attempt : Weighting.Attempt) :
      Session start rounds past { s with weighting := attempt.current s.weighting }
  | cycle {rounds : List Play} {past : List Turn} {s x : Service}
      (session : Session start rounds past s) {entropy : RandomStream} {t : List (Move Service)}
      {answer : Except Busy (Report Float)}
      (path : Path (runCycle host Process.cell entropy) t answer) (alone : Chain id t s x) :
      Session start rounds (past ++ [⟨rounds, s, answer, x⟩]) x

/-- The reports of some cycles. -/
def reports (past : List Turn) : List (Report Float) := past.filterMap fun turn => turn.answer.toOption

theorem reports_concat {past : List Turn} {turn : Turn} {r : Report Float} (h : turn.answer = .ok r) :
    reports (past ++ [turn]) = reports past ++ [r] := by
  simp [reports, h, Except.toOption]

/-- What is kept in a service that came to these reports. -/
structure Kept (start : Service) (rounds : List Play) (rs : List (Report Float)) (s : Service) :
    Prop where
  idle : s.swap.busy = false
  started : s.swap.started = rs.length
  believed : s.swap.whitelist = lastTold rs
  metrics : s.metrics = .tally rs
  tracker : s.tracker = start.tracker.after rounds

theorem Kept.round {start s : Service} {rounds : List Play} {rs : List (Report Float)}
    (h : Kept start rounds rs s) (e : RoundStart) (now : Instant) :
    Kept start (rounds ++ [e.play now]) rs (s.recordRound e now).2 where
  idle := h.idle
  started := h.started
  believed := h.believed
  metrics := h.metrics
  tracker := by
    rw [Tracker.after_concat, ← h.tracker]
    rfl

theorem Kept.cycle {start s x : Service} {rounds : List Play} {rs : List (Report Float)}
    {r : Report Float} (h : Kept start rounds rs s) (cycled : Cycled s r x) :
    Kept start rounds (rs ++ [r]) x where
  idle := cycled.idle
  started := by rw [cycled.started, cycled.cycle, h.started, List.length_append, List.length_singleton]
  believed := by rw [cycled.believed, Swap.lastTold_concat]
  metrics := by rw [cycled.metrics, h.metrics, Metrics.tally_concat]
  tracker := cycled.tracker.trans h.tracker

/-- **Every run keeps this.** -/
theorem Session.kept {start s : Service} {rounds : List Play} {past : List Turn}
    (session : Session start rounds past s) : Kept start rounds (reports past) s := by
  induction session with
  | start fresh untallied =>
    refine ⟨?_, ?_, ?_, untallied, rfl⟩ <;> rw [fresh] <;> rfl
  | round _ e now ih => exact ih.round e now
  | replacement _ attempt ih => exact ⟨ih.idle, ih.started, ih.believed, ih.metrics, ih.tracker⟩
  | cycle _ path alone ih =>
    obtain ⟨r, rfl, cycled⟩ := runCycle_reports ih.idle path alone
    rw [reports_concat rfl]
    exact ih.cycle cycled

/-- The state and the tally of a service agree with these reports. -/
structure Agrees (rs : List (Report Float)) (s : Service) : Prop where
  started : s.swap.started = rs.length
  cycles : s.metrics.cycles = rs.length
  summed : (s.metrics.occurred.map Prod.snd).sum = s.metrics.cycles
  counted (k : Swap.OutcomeKind) : s.metrics.outcomes k = rs.countP fun r => r.outcome.kind = k
  lastCycle : s.metrics.lastCycle = rs.getLast?.map Report.cycle
  lastOutcome : s.metrics.lastOutcome = rs.getLast?.map fun r => r.outcome.kind
  /-- Reports that belong to no round are passed over. -/
  lastRound : s.metrics.lastRoundIndex = (rs.filterMap Report.roundIndex).getLast?
  lastWhitelist : s.metrics.whitelist = lastTold rs
  whitelist : s.metrics.whitelist = s.swap.whitelist

theorem Kept.agrees {start s : Service} {rounds : List Play} {rs : List (Report Float)}
    (h : Kept start rounds rs s) : Agrees rs s := by
  obtain ⟨_, started, believed, metrics, _⟩ := h
  rw [← Metrics.whitelist_tally, ← metrics] at believed
  constructor
  case started => exact started
  case whitelist => exact believed.symm
  all_goals rw [metrics]
  case cycles => exact Metrics.cycles_tally rs
  case summed => rw [Metrics.sum_occurred_tally, Metrics.cycles_tally]
  case counted => exact Metrics.outcomes_tally rs
  case lastCycle => exact Metrics.lastCycle_tally rs
  case lastOutcome => exact Metrics.lastOutcome_tally rs
  case lastRound => exact Metrics.lastRoundIndex_tally rs
  case lastWhitelist => exact Metrics.whitelist_tally rs

/-- What a cycle of a run reports, where others came to the reports `earlier`. -/
structure TurnLaw (start : Service) (earlier : List (Report Float)) (turn : Turn) (r : Report Float) :
    Prop where
  answer : turn.answer = .ok r
  /-- Cycles are numbered as they are reported. -/
  cycle : r.cycle = earlier.length + 1
  version : r.parametersVersion = turn.before.weighting.version
  /-- The report belongs to the newest round, if there is one. -/
  round (i : UInt64) :
    r.roundIndex = some i ↔ IsLatest i (start.tracker.history.plays ++ turn.rounds)
  tells : Tells (lastTold earlier) r
  agrees : Agrees (earlier ++ [r]) turn.after

theorem Kept.turnLaw {start s x : Service} {rounds : List Play} {rs : List (Report Float)}
    {r : Report Float} (h : Kept start rounds rs s) (cycled : Cycled s r x) :
    TurnLaw start rs ⟨rounds, s, .ok r, x⟩ r where
  answer := rfl
  cycle := by rw [cycled.cycle, h.started]
  version := cycled.version
  round i := by rw [cycled.round, h.tracker, Tracker.latestIndex?_after]
  tells := by
    refine Swap.tells_of_next ?_
    rw [cycled.whitelist, h.believed]
  agrees := (h.cycle cycled).agrees

/-- The law holds of every cycle of a run. -/
theorem Session.turnLaw {start s : Service} {rounds : List Play} {past : List Turn}
    (session : Session start rounds past s) {earlier later : List Turn} {turn : Turn}
    (split : past = earlier ++ turn :: later) : ∃ r, TurnLaw start (reports earlier) turn r := by
  induction session generalizing later with
  | start => simp at split
  | round _ e now ih => exact ih split
  | replacement _ attempt ih => exact ih split
  | @cycle rounds past s x session entropy t answer path alone ih =>
    rcases List.eq_nil_or_concat later with rfl | ⟨between, last, rfl⟩
    · -- It is the last cycle.
      obtain ⟨rfl, same⟩ := List.append_inj' split rfl
      obtain rfl := List.singleton_inj.1 same
      obtain ⟨r, rfl, cycled⟩ := runCycle_reports session.kept.idle path alone
      exact ⟨r, session.kept.turnLaw cycled⟩
    · rw [List.concat_eq_append, ← List.cons_append, ← List.append_assoc] at split
      exact ih (List.append_inj' split rfl).1

/-- Where every cycle came to a report, the reports are what they answered. -/
theorem map_answer_eq {past : List Turn} (reported : ∀ turn ∈ past, ∃ r, turn.answer = .ok r) :
    past.map Turn.answer = (reports past).map .ok := by
  induction past with
  | nil => rfl
  | cons turn past ih =>
    obtain ⟨⟨r, answer⟩, later⟩ := List.forall_mem_cons.1 reported
    simp [reports, answer, Except.toOption, ih later]

/-- **Reports, tally, state and alerts agree.** However many rounds were recorded, weightings replaced
and cycles run, one after the other: every cycle came to a report, each report tells what holds, and after
each cycle the state and the tally are those of the reports so far. -/
theorem session_reports {start s : Service} {rounds : List Play} {past : List Turn}
    (session : Session start rounds past s) :
    past.map Turn.answer = (reports past).map .ok ∧ Agrees (reports past) s ∧
      ∀ earlier turn later, past = earlier ++ turn :: later →
        ∃ r, TurnLaw start (reports earlier) turn r := by
  refine ⟨map_answer_eq fun turn run => ?_, session.kept.agrees, fun _ _ _ => session.turnLaw⟩
  obtain ⟨earlier, later, split⟩ := List.append_of_mem run
  obtain ⟨r, law⟩ := session.turnLaw split
  exact ⟨r, law.answer⟩

/-- Undisturbed, a cycle of a run can take each of its courses. -/
theorem Session.course {start s : Service} {rounds : List Play} {past : List Turn}
    (session : Session start rounds past s) (entropy : RandomStream) {bs : List Beat}
    {ending : Swap.Ending Float}
    (course : Swap.Course s.input s.settings.swap s.swap.retained (s.cycleStream entropy) bs ending) :
    Session start rounds (past ++ [⟨rounds, s, .ok (s.reportOf ending), s.afterEnding ending⟩])
      (s.afterEnding ending) :=
  session.cycle (path_runCycle_iff.2 ⟨s, _, rfl, path_cycleSteps entropy session.kept.idle course⟩)
    ⟨rfl, chain_cycleSteps s bs ending⟩

/-! ### A whitelist that is restored by a later cycle -/

/-- Why a call fails. -/
def timedOut : Remote.CallError := .transport "get_maps" "timed out"

/-- The weighting in force after a replacement. -/
def replacedThree : Weighting.Attempt :=
  threeService.weighting.replace threeService.weighting.parameters none

/-- The service after the round and the replacement, as far as cycles go by it. -/
def foyThree : Service :=
  { (threeService.recordRound foyStart .epoch).2 with
    weighting := replacedThree.current threeService.weighting }

/-- A cycle before any round cannot restore the whitelist. After a round and with a new weighting, the next
cycle cannot read the catalog, and the one after it restores the whitelist. -/
theorem session_reports_unrestored :
    ∃ rounds past s, Session threeService rounds past s ∧
      (reports past).map (fun r => (r.cycle, r.roundIndex, r.parametersVersion)) =
        [(1, none, 1), (2, some 7, 2), (3, some 7, 2)] ∧
      (reports past).map (fun r => (r.outcome.kind, r.whitelist, (Alert.Envelope.ofReport r).severity)) =
        [(.restoreFailedAfterSuccess, .narrowed, .critical), (.selectionFailed, .narrowed, .warn),
          (.succeeded, .baseline, .info)] ∧
      s.metrics.cycles = 3 ∧ s.metrics.lastRoundIndex = some 7 ∧
      s.metrics.whitelist = s.swap.whitelist ∧
      ∀ earlier turn later, past = earlier ++ turn :: later →
        ∃ r, TurnLaw threeService (reports earlier) turn r := by
  have narrows : Draws threeService.input none zeros ["foy_warfare"] :=
    ⟨by simp, by decide +kernel⟩
  have restores : Draws foyThree.input (some ⟨threeIds⟩) zeros ["hill400_warfare"] :=
    ⟨by simp, by decide +kernel⟩
  obtain ⟨_, _, _, narrowing⟩ := narrows.course (.error timedOut)
  obtain ⟨_, _, _, restoring⟩ := restores.course (.ok ())
  have first := Session.course (.start rfl rfl) zeros narrowing
  have second := ((first.round foyStart .epoch).replacement replacedThree).course zeros
    (.unprepared (.catalogFailed timedOut))
  -- What a cycle goes by is the same whatever was reported before, so the course for `foyThree` serves.
  have third := second.course zeros restoring
  obtain ⟨_, agrees, turns⟩ := session_reports third
  exact ⟨_, _, _, third, rfl, rfl, agrees.cycles, agrees.lastRound, agrees.whitelist, turns⟩

end Service

end MapBallot
