import Mathlib.Logic.Relation
import MapBallot.Proofs.History.Tracker
import MapBallot.Proofs.Service.Cycle
import MapBallot.Service.Dispatch

/-!
# `MapBallot.Proofs.Service.Dispatch` — no round is lost where triggers coincide

The dispatcher takes a round from the queue, records it, and leaves a trigger; the worker takes the
trigger, looks at the service, and runs a cycle. A trigger names no round, and a round that finds one
left already leaves none of its own. No round is lost all the same, since rounds are recorded before
their trigger is left and the trigger is taken before the history is looked at: as long as the newest
round is in no report and in no cycle in progress, a trigger is there or about to be.

The worker proceeds as `Service.serveTrigger` does, step by step. What it did for a report is kept beside
the report, so what a cycle looked at is read off its steps.

Both proceed in steps of their own, in any order. Every statement is about all orders.

## Contents

* `Dispatcher`, `Worker`, `System`, `Step` — the two, with what they share, and what they do next;
* `reaches_dispatchNext`, `reaches_serveTrigger` — what each does if the other does nothing meanwhile;
* `looked?`, `Ran` — what a turn of the worker looked at, and the cycle that it ran;
* `Sound` — the turn in progress; `Newest` — the newest round; `Counted` — triggers, counted;
  `Attended` — who takes care of the newest round; `Drained` — what is left behind in the end;
* `Invariant` — all of these, kept by every step;
* `no_round_lost` — what holds in every state, and when nothing is left to do;
* `bothTold`, `no_round_lost_once` — two rounds, told three times, that share a cycle.
-/

namespace MapBallot.Dispatch

open Process (Keeps Path Run host)
open Service (Draws Served foyStart serveTrigger threeService zeros)
open Swap (Beat Busy Report)

/-! ## The two and what they share -/

/-- What the dispatcher is about. -/
inductive Dispatcher
  | waiting
  /-- A round was taken from the queue. -/
  | holding (e : RoundStart)
  /-- A round was recorded, and may leave a trigger. -/
  | recorded (e : RoundStart) (outcome : RecordOutcome)
  | stopped

/-- What the worker is about. -/
inductive Worker
  | waiting
  /-- A trigger was taken: what was done about it so far, and what is left to do. -/
  | serving (turn : List (Move Service)) (rest : Process Service Served)
  | stopped

/-- The dispatcher and the worker, with what they share and what they did so far. -/
structure System where
  service : Service
  pending : Pending := {}
  /-- No more rounds will come. -/
  closed : Bool := false
  dispatcher : Dispatcher := .waiting
  worker : Worker := .waiting
  /-- The recorded rounds, with what became of them. -/
  outcomes : List (RoundStart × RecordOutcome) := []
  /-- The reports that were sent, with what the worker did for each of them. -/
  reports : List (List (Move Service) × Report Float) := []

/-- Records a round. -/
def System.record (s : System) (e : RoundStart) (now : Instant) : System :=
  let (outcome, service) := s.service.recordRound e now
  { s with
    service := service
    dispatcher := .recorded e outcome
    outcomes := s.outcomes ++ [(e, outcome)] }

/-- What the worker is about after a turn. -/
def Worker.after : Served → Worker
  | .stopped => .stopped
  | .skipped | .reported _ => .waiting

/-- What is sent after a turn. -/
def sent (turn : List (Move Service)) : Served → List (List (Move Service) × Report Float)
  | .stopped | .skipped => []
  | .reported report => [(turn, report)]

/-- Ends a turn of the worker. -/
def System.finish (s : System) (turn : List (Move Service)) (served : Served) : System :=
  { s with worker := .after served, reports := s.reports ++ sent turn served }

/-- No shutdown was asked for. -/
def Unhindered : Move Service → Prop
  | .polled raised | .settled raised => raised = false
  | _ => True

/-- What happens next, as long as no shutdown is asked for. -/
inductive Step : System → System → Prop
  /-- A round is put in the queue. -/
  | push (s : System) (e : RoundStart) (opened : s.closed = false) :
      Step s { s with pending := s.pending.push e }
  | close (s : System) : Step s { s with closed := true }
  | takeRound (s : System) {e : RoundStart} {rest : Pending} (waiting : s.dispatcher = .waiting)
      (taken : s.pending.takeRound = some (e, rest)) :
      Step s { s with pending := rest, dispatcher := .holding e }
  | record (s : System) {e : RoundStart} (now : Instant) (holding : s.dispatcher = .holding e) :
      Step s (s.record e now)
  | leave (s : System) {e : RoundStart} {outcome : RecordOutcome}
      (recorded : s.dispatcher = .recorded e outcome)
      (wanted : s.service.wantsCycle outcome = true) :
      Step s { s with pending := s.pending.leaveTrigger, dispatcher := .waiting }
  | pass (s : System) {e : RoundStart} {outcome : RecordOutcome}
      (recorded : s.dispatcher = .recorded e outcome)
      (unwanted : s.service.wantsCycle outcome = false) :
      Step s { s with dispatcher := .waiting }
  /-- The dispatcher stops when no round waits and none will come. -/
  | endDispatcher (s : System) (waiting : s.dispatcher = .waiting) (closed : s.closed = true)
      (drained : s.pending.takeRound = none) : Step s { s with dispatcher := .stopped }
  | takeTrigger (s : System) (entropy : RandomStream) {rest : Pending} (waiting : s.worker = .waiting)
      (taken : s.pending.takeTrigger = some rest) :
      Step s { s with
        pending := rest, worker := .serving [] (serveTrigger host Process.cell entropy) }
  /-- The worker goes on with its turn. -/
  | serve (s : System) {turn : List (Move Service)} {p q : Process Service Served} {m : Move Service}
      {after : Service} (serving : s.worker = .serving turn p) (step : p.Step m q)
      (told : Unhindered m) (made : Chain id [m] s.service after) :
      Step s { s with service := after, worker := .serving (turn ++ [m]) q }
  | finish (s : System) {turn : List (Move Service)} {served : Served}
      (serving : s.worker = .serving turn (.done served)) : Step s (s.finish turn served)
  /-- The worker stops when no trigger waits and none will come. -/
  | endWorker (s : System) (waiting : s.worker = .waiting) (alone : s.dispatcher = .stopped)
      (drained : s.pending.takeTrigger = none) : Step s { s with worker := .stopped }

/-- What can come about. -/
abbrev Reaches : System → System → Prop := Relation.ReflTransGen Step

namespace System

/-- The rounds that were appended to the history. -/
def appended (s : System) : List RoundStart :=
  (s.outcomes.filter fun entry => entry.2 = .appended).map Prod.fst

/-- The number of cycles: those that came to a report, and the one in progress. -/
def cycles (s : System) : Nat :=
  s.reports.length + match s.worker with
    | .serving _ _ => 1
    | _ => 0

/-- Nothing waits, and nobody is about anything. -/
def Quiet (s : System) : Prop :=
  s.pending.rounds = [] ∧ s.pending.trigger = false ∧ s.dispatcher = .waiting ∧ s.worker = .waiting

/-- Both have stopped. -/
def Ended (s : System) : Prop := s.dispatcher = .stopped ∧ s.worker = .stopped

end System

/-! ## Undisturbed runs -/

theorem dispatchNext_eq (s : Service) {p rest : Pending} {e : RoundStart} (now : Instant)
    (taken : p.takeRound = some (e, rest)) :
    s.dispatchNext p now = some ((s.recordRound e now).2,
      if (s.recordRound e now).2.wantsCycle (s.recordRound e now).1 then rest.leaveTrigger
      else rest) := by
  rw [Service.dispatchNext, taken]

/-- Undisturbed, the dispatcher does what `Service.dispatchNext` does. -/
theorem reaches_dispatchNext {s : System} {e : RoundStart} {rest : Pending} (now : Instant)
    (waiting : s.dispatcher = .waiting) (taken : s.pending.takeRound = some (e, rest))
    {service : Service} {pending : Pending}
    (next : s.service.dispatchNext s.pending now = some (service, pending)) :
    Reaches s { s with
      service := service
      pending := pending
      dispatcher := .waiting
      outcomes := s.outcomes ++ [(e, (s.service.recordRound e now).1)] } := by
  rw [dispatchNext_eq s.service now taken] at next
  obtain ⟨rfl, rfl⟩ := Prod.mk.inj (Option.some.inj next)
  have holding : Reaches s _ := .single (.takeRound s waiting taken)
  have recorded := holding.tail (.record _ now rfl)
  by_cases wanted : (s.service.recordRound e now).2.wantsCycle (s.service.recordRound e now).1 = true
  · rw [if_pos wanted]
    exact recorded.tail (.leave _ rfl wanted)
  · rw [if_neg wanted]
    exact recorded.tail (.pass _ rfl (Bool.eq_false_iff.2 wanted))

/-- Undisturbed, the worker can do all that its turn could do on its own. -/
theorem reaches_of_path {p : Process Service Served} {t : List (Move Service)} {served : Served}
    (path : p.Path t served) {s : System} {turn : List (Move Service)}
    (serving : s.worker = .serving turn p) {after : Service} (chain : Chain id t s.service after)
    (told : ∀ m ∈ t, Unhindered m) :
    Reaches s { s with service := after, worker := .serving (turn ++ t) (.done served) } := by
  induction path generalizing s turn with
  | done value =>
    obtain rfl : s.service = after := chain
    rw [List.append_nil, ← serving]
  | @step p q m t value head tail ih =>
    obtain ⟨first, later⟩ := List.forall_mem_cons.1 told
    obtain ⟨between, made, rest⟩ := chain_append_iff.1 (show Chain id ([m] ++ t) s.service after from chain)
    have further := ih (s := { s with service := between, worker := .serving (turn ++ [m]) q }) rfl rest
      later
    rw [← List.append_cons] at further
    exact .head (Step.serve s serving head first made) further

/-- Undisturbed, the worker does what `Service.serveTrigger` does. -/
theorem reaches_serveTrigger {s : System} {entropy : RandomStream} {t : List (Move Service)}
    {served : Served} (path : Path (serveTrigger host Process.cell entropy) t served) {rest : Pending}
    (waiting : s.worker = .waiting) (taken : s.pending.takeTrigger = some rest) {after : Service}
    (chain : Chain id t s.service after) (told : ∀ m ∈ t, Unhindered m) :
    Reaches s { s with
      service := after
      pending := rest
      worker := .after served
      reports := s.reports ++ sent t served } := by
  have triggered : Reaches s _ := .single (.takeTrigger s entropy waiting taken)
  have ended := triggered.trans (reaches_of_path path rfl chain told)
  exact ended.tail (.finish _ rfl)

/-! ## What recording does -/

/-- An appended round is the newest then, and any other changes nothing. -/
theorem recordRound_cases (s : Service) (e : RoundStart) (now : Instant) :
    ((s.recordRound e now).1 = .appended ∧
      (s.recordRound e now).2.tracker.history.latest? = some (e.play now)) ∨
    ((s.recordRound e now).1 ≠ .appended ∧ (s.recordRound e now).2 = s) := by
  unfold Service.recordRound
  by_cases h : s.tracker.judge (e.play now) = .appended
  · exact .inl ⟨(Tracker.plays_recordPlay h).1, Tracker.latest?_recordPlay h⟩
  · rw [Tracker.recordPlay_rejected h]
    exact .inr ⟨h, rfl⟩

theorem takeRound_eq_some {p rest : Pending} {e : RoundStart} (h : p.takeRound = some (e, rest)) :
    p.rounds = e :: rest.rounds ∧ rest.trigger = p.trigger := by
  unfold Pending.takeRound at h
  cases hr : p.rounds with
  | nil =>
    rw [hr] at h
    cases h
  | cons e' rounds =>
    rw [hr] at h
    cases h
    exact ⟨rfl, rfl⟩

theorem takeRound_eq_none {p : Pending} (h : p.takeRound = none) : p.rounds = [] := by
  unfold Pending.takeRound at h
  cases hr : p.rounds with
  | nil => rfl
  | cons e rounds =>
    rw [hr] at h
    cases h

theorem takeTrigger_eq_some {p rest : Pending} (h : p.takeTrigger = some rest) :
    p.trigger = true ∧ rest.trigger = false ∧ rest.rounds = p.rounds := by
  unfold Pending.takeTrigger at h
  by_cases left : p.trigger = true
  · rw [if_pos left] at h
    cases h
    exact ⟨left, rfl, rfl⟩
  · rw [if_neg left] at h
    cases h

theorem takeTrigger_eq_none {p : Pending} (h : p.takeTrigger = none) : p.trigger = false := by
  by_cases left : p.trigger = true
  · rw [Pending.takeTrigger, if_pos left] at h
    cases h
  · exact Bool.eq_false_iff.2 left

/-! ## The worker -/

/-- What becomes of a trigger, by what its cycle answers. -/
def servedOf : Except Busy (Report Float) → Served
  | .error _ => .skipped
  | .ok report => .reported report

/-- The turn of the worker, as the tree of what it can do. -/
theorem serveTrigger_eq (entropy : RandomStream) :
    serveTrigger host Process.cell entropy = Process.poll fun raised =>
      if raised then pure .stopped
      else servedOf <$> Service.runCycle host Process.cell entropy := by
  unfold serveTrigger
  refine congrArg Process.poll (funext fun raised => ?_)
  cases raised with
  | true => rfl
  | false =>
    rw [← bind_pure_comp]
    refine congrArg (Service.runCycle host Process.cell entropy >>= ·) (funext fun answer => ?_)
    cases answer <;> rfl

/-- The worker asks about a shutdown, and runs a cycle if none was asked for. -/
theorem path_serveTrigger_iff {entropy : RandomStream} {t : List (Move Service)} {served : Served} :
    Path (serveTrigger host Process.cell entropy) t served ↔
      (t = [.polled true] ∧ served = .stopped) ∨
      ∃ u answer, t = .polled false :: u ∧
        Path (Service.runCycle host Process.cell entropy) u answer ∧ served = servedOf answer := by
  rw [serveTrigger_eq, Process.path_poll_iff]
  constructor
  · rintro ⟨raised, u, rfl, path⟩
    cases raised with
    | true =>
      obtain ⟨rfl, rfl⟩ := Process.path_pure_iff.1 path
      exact .inl ⟨rfl, rfl⟩
    | false =>
      obtain ⟨answer, cycle, rfl⟩ := Process.path_map_iff.1 path
      exact .inr ⟨u, answer, rfl, cycle, rfl⟩
  · rintro (⟨rfl, rfl⟩ | ⟨u, answer, rfl, cycle, rfl⟩)
    · exact ⟨true, [], rfl, Process.path_pure_iff.2 ⟨rfl, rfl⟩⟩
    · exact ⟨false, u, rfl, Process.path_map_iff.2 ⟨answer, cycle, rfl⟩⟩

/-- A turn leaves the history and the settings alone. -/
theorem keeps_serveTrigger (entropy : RandomStream) :
    (serveTrigger host Process.cell entropy).Keeps Service.rounds := by
  rw [serveTrigger_eq]
  intro raised
  cases raised with
  | true => exact Process.keeps_pure _
  | false =>
    refine Process.keeps_bind (Process.keeps_bind Process.keeps_partRead fun s => ?_) fun _ => trivial
    exact Service.keeps_cycleWith s entropy

/-- What a turn looked at first. -/
def looked? (turn : List (Move Service)) : Option Service :=
  turn.findSome? fun
    | .exchanged s _ => some s
    | _ => none

theorem looked?_concat (turn : List (Move Service)) (m : Move Service) :
    looked? (turn ++ [m]) = (looked? turn).or (looked? [m]) := List.findSome?_append

/-- What a step looks at is the service as it is. -/
theorem eq_of_looked? {m : Move Service} {s began after : Service} (looked : looked? [m] = some began)
    (made : Chain id [m] s after) : began = s := by
  cases m with
  | exchanged x y =>
    obtain rfl : x = began := Option.some.inj looked
    exact made.1
  | answered | polled | settled => cases looked

/-- A turn that ran a cycle: it looked at the service, and the cycle went by what it saw. -/
inductive Ran : List (Move Service) → Service → Report Float → Prop
  | intro {began : Service} {report : Report Float} {t : List (Move Service)}
      (took : Service.Took began t report) :
      Ran (.polled false :: .exchanged began began :: t) began report

theorem Ran.looked?_eq {turn : List (Move Service)} {began : Service} {report : Report Float}
    (h : Ran turn began report) : looked? turn = some began := by
  cases h
  rfl

theorem Ran.roundIndex_eq {turn : List (Move Service)} {began : Service} {report : Report Float}
    (h : Ran turn began report) : report.roundIndex = began.tracker.history.latestIndex? := by
  obtain ⟨⟨_, _⟩⟩ := h
  rfl

/-- The turn in progress came to where it is with no shutdown asked for, and nobody else ran a cycle
meanwhile. Between turns, no cycle is in progress. -/
def Sound (s : System) : Prop :=
  match s.worker with
  | .serving turn rest => (∃ entropy, (serveTrigger host Process.cell entropy).Run turn rest) ∧
      (∀ m ∈ turn, Unhindered m) ∧ Chain (fun s => s.swap.busy) turn false s.service.swap.busy
  | _ => s.service.swap.busy = false

/-- How the turn in progress came to where it is. -/
theorem Sound.run {s : System} {turn : List (Move Service)} {rest : Process Service Served}
    (h : Sound s) (serving : s.worker = .serving turn rest) :
    (∃ entropy, (serveTrigger host Process.cell entropy).Run turn rest) ∧
      (∀ m ∈ turn, Unhindered m) ∧ Chain (fun s => s.swap.busy) turn false s.service.swap.busy := by
  unfold Sound at h
  rw [serving] at h
  exact h

/-- A turn that has come to its end ran a cycle that came to a report. -/
theorem Sound.report {s : System} {turn : List (Move Service)} {served : Served} (h : Sound s)
    (serving : s.worker = .serving turn (.done served)) :
    ∃ began report, served = .reported report ∧ Ran turn began report ∧
      s.service.swap.busy = false := by
  obtain ⟨⟨entropy, run⟩, told, chain⟩ := h.run serving
  rcases path_serveTrigger_iff.1 run.path with ⟨rfl, _⟩ | ⟨u, answer, rfl, cycle, rfl⟩
  · have raised : true = false := told _ (.head _)
    cases raised
  · obtain ⟨began, rest, rfl, path⟩ := Service.path_runCycle_iff.1 cycle
    obtain ⟨idle, alone⟩ := chain
    have alone : Chain (fun s => s.swap.busy) rest false s.service.swap.busy := idle ▸ alone
    obtain ⟨report, rfl, took, idle⟩ := Service.cycleWith_reports path alone
    exact ⟨began, report, rfl, .intro took, idle⟩

/-- A step of a turn leaves the history and the settings alone. -/
theorem Sound.rounds_eq {s : System} {turn : List (Move Service)} {p q : Process Service Served}
    {m : Move Service} {after : Service} (h : Sound s) (serving : s.worker = .serving turn p)
    (step : p.Step m q) (made : Chain id [m] s.service after) : after.rounds = s.service.rounds := by
  obtain ⟨⟨entropy, run⟩, _⟩ := h.run serving
  cases m with
  | exchanged x y =>
    obtain ⟨rfl, rfl⟩ := made
    exact ((keeps_serveTrigger entropy).run run).exchanged step
  | answered | polled | settled =>
    obtain rfl : s.service = after := made
    rfl

theorem Sound.tracker_eq {s : System} {turn : List (Move Service)} {p q : Process Service Served}
    {m : Move Service} {after : Service} (h : Sound s) (serving : s.worker = .serving turn p)
    (step : p.Step m q) (made : Chain id [m] s.service after) : after.tracker = s.service.tracker :=
  congrArg Prod.fst (h.rounds_eq serving step made)

theorem Sound.settings_eq {s : System} {turn : List (Move Service)} {p q : Process Service Served}
    {m : Move Service} {after : Service} (h : Sound s) (serving : s.worker = .serving turn p)
    (step : p.Step m q) (made : Chain id [m] s.service after) : after.settings = s.service.settings :=
  congrArg Prod.snd (h.rounds_eq serving step made)

theorem Sound.step {s s' : System} (h : Sound s) (step : Step s s') : Sound s' := by
  cases step with
  -- The dispatcher does not touch the state of the cycles.
  | push | close | takeRound | record | leave | pass | endDispatcher => exact h
  | takeTrigger entropy waiting taken =>
    unfold Sound at h
    rw [waiting] at h
    exact ⟨⟨entropy, .start⟩, fun m mem => absurd mem List.not_mem_nil, h.symm⟩
  | @serve turn p q m after serving move told made =>
    obtain ⟨⟨entropy, run⟩, earlier, chain⟩ := h.run serving
    refine ⟨⟨entropy, run.step move⟩, List.forall_mem_append.2 ⟨earlier, by simpa using told⟩,
      chain_append_iff.2 ⟨_, chain, ?_⟩⟩
    cases m with
    | exchanged x y =>
      obtain ⟨rfl, rfl⟩ := made
      exact ⟨rfl, rfl⟩
    | answered | polled | settled => exact congrArg (fun s => s.swap.busy) made
  | finish serving =>
    obtain ⟨began, report, rfl, _, idle⟩ := h.report serving
    exact idle
  | endWorker waiting alone drained =>
    unfold Sound at h
    rw [waiting] at h
    exact h

/-! ## The dispatcher -/

theorem wantsCycle_eq_true_iff {s : Service} (on : s.settings.runOnRoundStart = true)
    {outcome : RecordOutcome} : s.wantsCycle outcome = true ↔ outcome = .appended := by
  unfold Service.wantsCycle
  rw [on, Bool.and_true, decide_eq_true_eq]

theorem ne_appended_of_unwanted {s : Service} (on : s.settings.runOnRoundStart = true)
    {outcome : RecordOutcome} (unwanted : s.wantsCycle outcome = false) : outcome ≠ .appended := by
  intro h
  rw [(wantsCycle_eq_true_iff on).2 h] at unwanted
  cases unwanted

/-- Recorded rounds start cycles, at every time. -/
theorem runOnRoundStart_step {s s' : System} (h : Sound s)
    (on : s.service.settings.runOnRoundStart = true) (step : Step s s') :
    s'.service.settings.runOnRoundStart = true := by
  cases step with
  | serve serving move _ made =>
    dsimp only
    rwa [h.settings_eq serving move made]
  | _ => exact on

/-- Recording a round adds to the appended ones, or changes neither them nor the service. -/
theorem record_cases (s : System) (e : RoundStart) (now : Instant) :
    ((s.record e now).dispatcher = .recorded e .appended ∧
      (s.record e now).appended = s.appended ++ [e] ∧
      (s.record e now).service.tracker.history.latest? = some (e.play now)) ∨
    (∃ outcome, outcome ≠ .appended ∧ (s.record e now).appended = s.appended ∧ s.record e now =
      { s with dispatcher := .recorded e outcome, outcomes := s.outcomes ++ [(e, outcome)] }) := by
  have listed : (s.record e now).appended = s.appended ++
      ([(e, (s.service.recordRound e now).1)].filter fun entry => entry.2 = .appended).map
        Prod.fst := by
    show (List.filter _ (s.outcomes ++ _)).map Prod.fst = _
    rw [List.filter_append, List.map_append]
    rfl
  rcases recordRound_cases s.service e now with ⟨outcome, latest⟩ | ⟨outcome, same⟩
  · refine .inl ⟨congrArg _ outcome, ?_, latest⟩
    rw [listed, outcome]
    rfl
  · refine .inr ⟨_, outcome, ?_, ?_⟩
    · rw [listed, List.filter_cons_of_neg (by simpa using outcome)]
      exact List.append_nil _
    · unfold System.record
      dsimp only
      rw [same]

/-- The last appended round is the newest one of the history. -/
def Newest (s : System) : Prop :=
  ∀ e, s.appended.getLast? = some e → ∃ now, s.service.tracker.history.latest? = some (e.play now)

theorem Newest.step {s s' : System} (h : Newest s) (sound : Sound s) (step : Step s s') :
    Newest s' := by
  cases step with
  | @record e now holding =>
    intro e' he'
    rcases record_cases s e now with ⟨_, added, latest⟩ | ⟨_, _, same, unchanged⟩
    · rw [added, List.getLast?_append] at he'
      obtain rfl : e = e' := Option.some.inj he'
      exact ⟨now, latest⟩
    · rw [same] at he'
      rw [unchanged]
      exact h e' he'
  | serve serving move _ made =>
    intro e' he'
    dsimp only
    rw [sound.tracker_eq serving move made]
    exact h e' he'
  | _ => exact h

/-! ## Counting triggers -/

/-- A trigger that is about to be left. -/
def Dispatcher.owes : Dispatcher → Nat
  | recorded _ .appended => 1
  | _ => 0

/-- A report that is about to be sent. -/
def Worker.owes : Worker → Nat
  | serving _ _ => 1
  | _ => 0

/-- After a turn, no report is owed, and at most one was sent. -/
theorem owes_after (turn : List (Move Service)) (served : Served) :
    (sent turn served).length + (Worker.after served).owes ≤ 1 := by
  cases served <;> simp [sent, Worker.after, Worker.owes]

/-- Each report, sent or to be sent, was triggered by an appended round of its own. -/
def Counted (s : System) : Prop :=
  s.reports.length + s.worker.owes + s.pending.trigger.toNat + s.dispatcher.owes ≤ s.appended.length

theorem Dispatcher.owes_recorded (e : RoundStart) (outcome : RecordOutcome) :
    (recorded e outcome).owes = if outcome = .appended then 1 else 0 := by
  cases outcome <;> rfl

theorem Counted.step {s s' : System} (h : Counted s)
    (on : s.service.settings.runOnRoundStart = true) (step : Step s s') : Counted s' := by
  unfold Counted at h ⊢
  cases step with
  | push | close => exact h
  | takeRound waiting taken =>
    rw [waiting] at h
    rw [(takeRound_eq_some taken).2]
    exact h
  | @record e now holding =>
    -- An appended round is one more, and pays for the trigger that is owed from now on.
    rw [holding] at h
    rcases record_cases s e now with ⟨recorded, added, _⟩ | ⟨outcome, rejected, same, unchanged⟩
    · rw [added, recorded, List.length_append]
      exact Nat.add_le_add_right h 1
    · rw [same, unchanged, Dispatcher.owes_recorded, if_neg rejected]
      exact h
  | @leave e outcome recorded wanted =>
    -- The trigger that was owed is left; if one was there before, then the two are one.
    rw [recorded, Dispatcher.owes_recorded, if_pos ((wantsCycle_eq_true_iff on).1 wanted)] at h
    show s.reports.length + s.worker.owes + 1 + 0 ≤ s.appended.length
    omega
  | @pass e outcome recorded unwanted =>
    rw [recorded, Dispatcher.owes_recorded, if_neg (ne_appended_of_unwanted on unwanted)] at h
    exact h
  | endDispatcher waiting closed drained =>
    rw [waiting] at h
    exact h
  | @takeTrigger entropy rest waiting taken =>
    -- The trigger that was taken is a report that is owed.
    obtain ⟨left, gone, _⟩ := takeTrigger_eq_some taken
    rw [waiting, left] at h
    show s.reports.length + 1 + rest.trigger.toNat + s.dispatcher.owes ≤ s.appended.length
    rw [gone]
    exact h
  | serve serving =>
    rw [serving] at h
    exact h
  | @finish turn served serving =>
    have owed := owes_after turn served
    rw [serving, show (Worker.serving turn (.done served)).owes = 1 from rfl] at h
    show (s.reports ++ sent turn served).length + (Worker.after served).owes +
      s.pending.trigger.toNat + s.dispatcher.owes ≤ s.appended.length
    rw [List.length_append]
    omega
  | endWorker waiting alone drained =>
    rw [waiting] at h
    exact h

/-! ## The newest round -/

/-- A trigger is left, or is about to be. -/
def Awaited (s : System) : Prop :=
  (∃ e, s.dispatcher = .recorded e .appended) ∨ s.pending.trigger = true

/-- The last report is of a cycle that looked at the history as it is. -/
def Reported (s : System) : Prop :=
  ∃ turn began report, s.reports.getLast? = some (turn, report) ∧ Ran turn began report ∧
    began.tracker = s.service.tracker

/-- The newest round is taken care of: by a trigger, by a worker that is yet to look or that looked after
the round was recorded, or by the last report. -/
def Covered (s : System) : Prop :=
  Awaited s ∨ match s.worker with
    | .serving turn _ => ∀ began ∈ looked? turn, began.tracker = s.service.tracker
    | .waiting | .stopped => Reported s

/-- A trigger that no round is about to leave is left. -/
theorem Awaited.left {s : System} (h : Awaited s)
    (none : ∀ e, s.dispatcher ≠ .recorded e .appended) : s.pending.trigger = true := by
  rcases h with ⟨e, recorded⟩ | left
  · exact absurd recorded (none e)
  · exact left

theorem Covered.serving {s : System} {turn : List (Move Service)} {rest : Process Service Served}
    (h : Covered s) (serving : s.worker = .serving turn rest) :
    Awaited s ∨ ∀ began ∈ looked? turn, began.tracker = s.service.tracker := by
  unfold Covered at h
  rw [serving] at h
  exact h

theorem Covered.reported {s : System} (h : Covered s)
    (idle : s.worker = .waiting ∨ s.worker = .stopped) : Awaited s ∨ Reported s := by
  unfold Covered at h
  rcases idle with waiting | stopped
  · rwa [waiting] at h
  · rwa [stopped] at h

/-- The newest round is taken care of, if there is one. -/
def Attended (s : System) : Prop := s.appended ≠ [] → Covered s

theorem Attended.step {s s' : System} (h : Attended s) (sound : Sound s)
    (on : s.service.settings.runOnRoundStart = true) (step : Step s s') : Attended s' := by
  intro added
  cases step with
  | push | close => exact h added
  | takeRound waiting taken =>
    refine (h added).imp_left fun awaited => .inr ?_
    rw [(takeRound_eq_some taken).2]
    exact awaited.left (by simp [waiting])
  | @record e now holding =>
    rcases record_cases s e now with ⟨recorded, _⟩ | ⟨outcome, rejected, same, unchanged⟩
    · -- A new round is the newest, and whatever took care of the one before no longer counts.
      exact .inl (.inl ⟨e, recorded⟩)
    · rw [same] at added
      rw [unchanged]
      exact (h added).imp_left fun awaited => .inr (awaited.left (by simp [holding]))
  | leave recorded wanted => exact .inl (.inr rfl)
  | @pass e outcome recorded unwanted =>
    have rejected := ne_appended_of_unwanted on unwanted
    refine (h added).imp_left fun awaited => .inr (awaited.left ?_)
    simp [recorded, rejected]
  | endDispatcher waiting closed drained =>
    exact (h added).imp_left fun awaited => .inr (awaited.left (by simp [waiting]))
  -- The worker has not looked at the service yet.
  | takeTrigger entropy waiting taken => exact .inr fun began looked => by cases looked
  | @serve turn p q m after serving move told made =>
    refine ((h added).serving serving).imp_right fun earlier began looked => ?_
    rw [looked?_concat, Option.mem_def, Option.or_eq_some_iff] at looked
    rw [sound.tracker_eq serving move made]
    rcases looked with looked | ⟨_, looked⟩
    · exact earlier began looked
    · -- It looks now, and sees the history as it is.
      rw [eq_of_looked? looked made]
  | @finish turn served serving =>
    obtain ⟨began, report, rfl, ran, _⟩ := sound.report serving
    refine ((h added).serving serving).imp_right fun looked => ?_
    exact ⟨turn, began, report, List.getLast?_concat, ran, looked began ran.looked?_eq⟩
  | endWorker waiting alone drained => exact (h added).reported (.inl waiting)

/-- The dispatcher leaves no round behind when it stops, and none comes after it. The worker stops last,
and leaves no trigger behind. -/
structure Drained (s : System) : Prop where
  rounds : s.dispatcher = .stopped → s.closed = true ∧ s.pending.rounds = []
  trigger : s.worker = .stopped → s.dispatcher = .stopped ∧ s.pending.trigger = false

/-- What is left behind does not matter where the dispatcher goes on. -/
theorem Drained.of_busy {s s' : System} (h : Drained s) (before : s.dispatcher ≠ .stopped)
    (after : s'.dispatcher ≠ .stopped) (same : s'.worker = s.worker) : Drained s' where
  rounds stopped := absurd stopped after
  trigger stopped := absurd (h.trigger (same.symm.trans stopped)).1 before

theorem Drained.step {s s' : System} (h : Drained s) (sound : Sound s) (step : Step s s') :
    Drained s' := by
  cases step with
  | push e opened =>
    refine ⟨fun stopped => ?_, h.trigger⟩
    exact absurd (opened.symm.trans (h.rounds stopped).1) (by decide)
  | close => exact ⟨fun stopped => ⟨rfl, (h.rounds stopped).2⟩, h.trigger⟩
  | takeRound waiting taken => exact h.of_busy (by simp [waiting]) (by simp) rfl
  | record now holding => exact h.of_busy (by simp [holding]) (by simp [System.record]) rfl
  | leave recorded wanted => exact h.of_busy (by simp [recorded]) (by simp) rfl
  | pass recorded unwanted => exact h.of_busy (by simp [recorded]) (by simp) rfl
  | endDispatcher waiting closed drained =>
    exact ⟨fun _ => ⟨closed, takeRound_eq_none drained⟩,
      fun stopped => ⟨rfl, (h.trigger stopped).2⟩⟩
  | @takeTrigger entropy rest waiting taken =>
    refine ⟨fun stopped => ?_, fun stopped => by cases stopped⟩
    obtain ⟨closed, none⟩ := h.rounds stopped
    exact ⟨closed, (takeTrigger_eq_some taken).2.2.trans none⟩
  | serve => exact ⟨h.rounds, fun stopped => by cases stopped⟩
  | finish serving =>
    -- The worker does not stop at the end of a turn, as no shutdown was asked for.
    obtain ⟨_, _, rfl, _⟩ := sound.report serving
    exact ⟨h.rounds, fun stopped => by cases stopped⟩
  | endWorker waiting alone drained =>
    exact ⟨h.rounds, fun _ => ⟨alone, takeTrigger_eq_none drained⟩⟩

/-- What the dispatcher is about to act on is what it recorded last. -/
def Told (s : System) : Prop :=
  ∀ e outcome, s.dispatcher = .recorded e outcome → s.outcomes.getLast? = some (e, outcome)

theorem Told.step {s s' : System} (h : Told s) (step : Step s s') : Told s' := by
  cases step with
  | @record e now holding =>
    intro e' outcome recorded
    cases recorded
    exact List.getLast?_concat
  | takeRound | leave | pass | endDispatcher =>
    intro e outcome recorded
    cases recorded
  | _ => exact h

/-! ## All orders -/

/-- What holds in every state. -/
structure Invariant (s : System) : Prop where
  on : s.service.settings.runOnRoundStart = true
  sound : Sound s
  counted : Counted s
  newest : Newest s
  attended : Attended s
  drained : Drained s
  told : Told s

theorem Invariant.step {s s' : System} (h : Invariant s) (step : Step s s') : Invariant s' where
  on := runOnRoundStart_step h.sound h.on step
  sound := h.sound.step step
  counted := h.counted.step h.on step
  newest := h.newest.step h.sound step
  attended := h.attended.step h.sound h.on step
  drained := h.drained.step h.sound step
  told := h.told.step step

theorem Invariant.start {service : Service} (on : service.settings.runOnRoundStart = true)
    (idle : service.swap.busy = false) : Invariant { service := service } where
  on := on
  sound := idle
  counted := Nat.le_refl 0
  newest e he := by cases he
  attended added := absurd rfl added
  drained := ⟨fun stopped => (by cases stopped), fun stopped => (by cases stopped)⟩
  told e outcome recorded := by cases recorded

theorem Invariant.reaches {s s' : System} (h : Invariant s) (reaches : Reaches s s') :
    Invariant s' := by
  induction reaches with
  | refl => exact h
  | tail _ step ih => exact ih.step step

/-- A trigger is only left for a round that was appended. -/
theorem Step.triggers {s s' : System} (step : Step s s')
    (on : s.service.settings.runOnRoundStart = true) (before : s.pending.trigger = false)
    (after : s'.pending.trigger = true) : ∃ e, s.dispatcher = .recorded e .appended := by
  cases step with
  | takeRound waiting taken =>
    have kept := (takeRound_eq_some taken).2
    rw [before] at kept
    exact absurd (kept.symm.trans after) (by decide)
  | @leave e outcome recorded wanted =>
    rw [(wantsCycle_eq_true_iff on).1 wanted] at recorded
    exact ⟨e, recorded⟩
  | takeTrigger entropy waiting taken =>
    exact absurd ((takeTrigger_eq_some taken).2.1.symm.trans after) (by decide)
  | _ => exact absurd (before.symm.trans after) (by decide)

theorem Invariant.cycles_le {s : System} (h : Invariant s) : s.cycles ≤ s.appended.length := by
  have counted : s.reports.length + s.worker.owes + s.pending.trigger.toNat + s.dispatcher.owes ≤
    s.appended.length := h.counted
  have running : s.cycles ≤ s.reports.length + s.worker.owes := by
    unfold System.cycles
    cases s.worker <;> simp [Worker.owes]
  omega

/-- When nothing is left to do, the last report is of a cycle that looked at the history as it is. -/
theorem Invariant.reported {s : System} (h : Invariant s) (idle : s.Quiet ∨ s.Ended)
    (added : s.appended ≠ []) : Reported s := by
  have unrecorded : ∀ e, s.dispatcher ≠ .recorded e .appended := by
    rcases idle with ⟨_, _, waiting, _⟩ | ⟨stopped, _⟩
    · simp [waiting]
    · simp [stopped]
  have gone : s.pending.trigger = false := by
    rcases idle with ⟨_, gone, _⟩ | ⟨_, stopped⟩
    · exact gone
    · exact (h.drained.trigger stopped).2
  have resting : s.worker = .waiting ∨ s.worker = .stopped :=
    idle.imp (fun quiet => quiet.2.2.2) And.right
  rcases (h.attended added).reported resting with awaited | reported
  · exact absurd (gone.symm.trans (awaited.left unrecorded)) (by decide)
  · exact reported

/-- **No round is lost where triggers coincide.** In every order of steps: a trigger is only left for
the round that was just recorded as appended; there are at most as many cycles as appended rounds; and
when nothing is left to do, or both have stopped, then the last report belongs to the round that was
appended last, and its cycle went by an input in whose history that round is. Once both have stopped, no
round and no trigger is left behind. The steps of the dispatcher make up `Service.dispatchNext`. -/
theorem no_round_lost {service : Service} (on : service.settings.runOnRoundStart = true)
    (idle : service.swap.busy = false) {s : System} (reached : Reaches { service := service } s) :
    (∀ s', Step s s' → s.pending.trigger = false → s'.pending.trigger = true →
      ∃ e, s.dispatcher = .recorded e .appended ∧ s.outcomes.getLast? = some (e, .appended)) ∧
    s.cycles ≤ s.appended.length ∧
    (s.Ended → s.closed = true ∧ s.pending.rounds = [] ∧ s.pending.trigger = false) ∧
    (s.Quiet ∨ s.Ended → ∀ e, s.appended.getLast? = some e →
      ∃ turn began report now, s.reports.getLast? = some (turn, report) ∧ Ran turn began report ∧
        report.roundIndex = some e.roundIndex ∧ e.play now ∈ began.input.history.plays ∧
        s.service.tracker.history.latest? = some (e.play now)) ∧
    (s.dispatcher = .waiting → ∀ e rest now, s.pending.takeRound = some (e, rest) →
      ∃ service pending, s.service.dispatchNext s.pending now = some (service, pending) ∧
        Reaches s { s with
          service := service
          pending := pending
          dispatcher := .waiting
          outcomes := s.outcomes ++ [(e, (s.service.recordRound e now).1)] }) := by
  have h := (Invariant.start on idle).reaches reached
  refine ⟨?_, h.cycles_le, ?_, ?_, ?_⟩
  · intro s' step before after
    obtain ⟨e, recorded⟩ := step.triggers h.on before after
    exact ⟨e, recorded, h.told e _ recorded⟩
  · rintro ⟨dispatcher, worker⟩
    obtain ⟨closed, rounds⟩ := h.drained.rounds dispatcher
    exact ⟨closed, rounds, (h.drained.trigger worker).2⟩
  · intro still e last
    have added : s.appended ≠ [] := by
      intro none
      rw [none] at last
      cases last
    obtain ⟨turn, began, report, sent, ran, looked⟩ := h.reported still added
    obtain ⟨now, latest⟩ := h.newest e last
    -- Nothing was recorded since the cycle looked, so its input had the newest round too.
    have given : began.input.history.latest? = some (e.play now) := by
      show began.tracker.history.latest? = _
      rw [looked, latest]
    refine ⟨turn, began, report, now, sent, ran, ?_, List.mem_of_getLast? given, latest⟩
    rw [ran.roundIndex_eq, looked, History.latestIndex?, latest]
    rfl
  · intro waiting e rest now taken
    have next := dispatchNext_eq s.service now taken
    exact ⟨_, _, next, reaches_dispatchNext now waiting taken next⟩

/-- A service that has recorded nothing. -/
def freshService : Service where
  settings := {}
  weighting := { version := 1, parameters := ⟨[], []⟩ }
  tracker := .withRetention 10

/-- The notice of a round. -/
def foyRound : RoundStart := ⟨"foy", .day, 7, none⟩

/-! ### Two rounds that share a cycle -/

/-- The notice of the round after the first one. -/
def hill400Start : RoundStart := ⟨"hill400", .day, 8, some "hill400_warfare"⟩

/-- The service after the first round. -/
def foyTold : Service := (threeService.recordRound foyStart .epoch).2

/-- The service after both. -/
def bothTold : Service := (foyTold.recordRound hill400Start .epoch).2

theorem dispatchNext_foy :
    threeService.dispatchNext ⟨[foyStart, foyStart, hill400Start], false⟩ .epoch =
      some (foyTold, ⟨[foyStart, hill400Start], true⟩) := by
  rw [dispatchNext_eq _ _ rfl, if_pos (by decide +kernel)]
  rfl

/-- The same round again changes nothing. -/
theorem recordRound_again : foyTold.recordRound foyStart .epoch = (.duplicate, foyTold) := by
  have again : (foyTold.recordRound foyStart .epoch).1 = .duplicate := by decide +kernel
  rcases recordRound_cases foyTold foyStart .epoch with ⟨appended, _⟩ | ⟨_, same⟩
  · cases again.symm.trans appended
  · exact Prod.ext again same

theorem dispatchNext_again :
    foyTold.dispatchNext ⟨[foyStart, hill400Start], true⟩ .epoch =
      some (foyTold, ⟨[hill400Start], true⟩) := by
  rw [dispatchNext_eq _ _ rfl, recordRound_again]
  rfl

theorem dispatchNext_hill400 :
    foyTold.dispatchNext ⟨[hill400Start], true⟩ .epoch = some (bothTold, ⟨[], true⟩) := by
  rw [dispatchNext_eq _ _ rfl, if_pos (by decide +kernel)]
  rfl

/-- Three notices of two rounds are recorded before the worker takes the trigger. -/
theorem reaches_both :
    Reaches { service := threeService }
      { service := bothTold
        pending := ⟨[], true⟩
        outcomes := [(foyStart, .appended), (foyStart, .duplicate), (hill400Start, .appended)] } := by
  have queued : Reaches { service := threeService } _ :=
    .head (.push _ foyStart rfl) (.head (.push _ foyStart rfl) (.single (.push _ hill400Start rfl)))
  have first := queued.trans (reaches_dispatchNext .epoch rfl rfl dispatchNext_foy)
  have second := first.trans (reaches_dispatchNext .epoch rfl rfl dispatchNext_again)
  have third := second.trans (reaches_dispatchNext .epoch rfl rfl dispatchNext_hill400)
  have foy : (threeService.recordRound foyStart .epoch).1 = .appended := by decide +kernel
  have hill400 : (foyTold.recordRound hill400Start .epoch).1 = .appended := by decide +kernel
  rw [foy, recordRound_again, hill400] at third
  exact third

/-- One cycle is run for both rounds. It leaves out the layers of both, so it selects the third one. -/
theorem no_round_lost_once :
    ∃ s, Reaches { service := threeService } s ∧ s.Quiet ∧
      s.outcomes = [(foyStart, .appended), (foyStart, .duplicate), (hill400Start, .appended)] ∧
      s.cycles = 1 ∧ s.cycles ≤ s.appended.length ∧
      ∃ turn began report now selection, s.reports = [(turn, report)] ∧ Ran turn began report ∧
        report.roundIndex = some 8 ∧ hill400Start.play now ∈ began.input.history.plays ∧
        report.outcome = .succeeded selection ∧ selection.layerIds = ["kursk_warfare"] := by
  have draws : Draws bothTold.input none zeros ["kursk_warfare"] :=
    ⟨by simp, by decide +kernel⟩
  obtain ⟨selection, left, ids, course⟩ := draws.course (.ok ())
  have idle : bothTold.swap.busy = false := rfl
  have cycle := Service.path_cycleSteps zeros idle course
  have turn := path_serveTrigger_iff.2 (.inr ⟨_, _, rfl,
    Service.path_runCycle_iff.2 ⟨bothTold, _, rfl, cycle⟩, rfl⟩)
  have reached := reaches_both.trans (reaches_serveTrigger turn rfl rfl
    ⟨rfl, Service.chain_cycleSteps bothTold _ _⟩ (by
      simp [Service.cycleSteps, Service.threeBeats, Service.threeReads, Beat.move, Unhindered]))
  obtain ⟨_, atMost, _, settled, _⟩ := no_round_lost rfl rfl reached
  obtain ⟨turn, began, report, now, last, ran, belongs, recorded, _⟩ :=
    settled (.inl ⟨rfl, rfl, rfl, rfl⟩) hill400Start rfl
  obtain ⟨rfl, rfl⟩ := Prod.mk.inj (Option.some.inj last)
  exact ⟨_, reached, ⟨rfl, rfl, rfl, rfl⟩, rfl, rfl, atMost, _, began, _, now, selection, rfl, ran,
    belongs, recorded, rfl, ids⟩

end MapBallot.Dispatch
