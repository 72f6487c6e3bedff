import MapBallot.Proofs.Remote.Wait
import MapBallot.Proofs.Swap.CallOrder

/-!
# `MapBallot.Proofs.Swap.Shutdown` — a shutdown leaves no step forward behind

A shutdown may rise at any step of a cycle, and stays up. A cycle looks for it before it applies its
selection, and again and again while it waits. This module follows a cycle step by step, with its waits
spelled out, and states what becomes of it for each moment at which the shutdown may rise: steps forward
are given up, the restore never is.

## Contents

* `RaisedAt` — the moment at which a shutdown rises;
* `LastLook`, `StopLaw` — the last look of a wait, and the law of what follows the first look;
* `Forward.stopLaw` — the steps forward keep it;
* `runExclusive_shutdown` — so does every cycle.
-/

namespace MapBallot

open Remote (Call CallError Whitelist)
open Process (Path host timedHost)

variable {α σ : Type}

/-- A shutdown rises before step `k`, and stays up: whoever looks is told so from then on. -/
def RaisedAt (k : Nat) (t : List (Move σ)) : Prop :=
  ∀ i raised, t[i]? = some (.polled raised) → raised = decide (k ≤ i)

theorem RaisedAt.look {k : Nat} {t u : List (Move σ)} {raised : Bool}
    (h : RaisedAt k (t ++ .polled raised :: u)) : raised = decide (k ≤ t.length) :=
  h t.length raised (by simp)

theorem raisedAt_nil (k : Nat) : RaisedAt k ([] : List (Move σ)) := by simp [RaisedAt]

theorem raisedAt_cons_iff {k : Nat} {m : Move σ} {t : List (Move σ)} :
    RaisedAt k (m :: t) ↔
      (∀ raised, m = .polled raised → raised = decide (k = 0)) ∧ RaisedAt (k - 1) t := by
  constructor
  · intro h
    refine ⟨?_, fun i raised hi => ?_⟩
    · rintro raised rfl
      simpa using h 0 raised rfl
    · have later := h (i + 1) raised hi
      rw [later]
      simp
  · rintro ⟨first, rest⟩ (_ | i) raised hi
    · simpa using first raised (Option.some.inj hi)
    · rw [rest i raised hi]
      simp

namespace Swap

/-! ## The law -/

/-- Between `before` and `later` is the last look of a wait: it makes no call up to there, and the next
call comes without another look. -/
def LastLook (before later : List (Move σ)) : Prop :=
  answers before = [] ∧ ∃ quiet c a tail, later = quiet ++ .answered c a :: tail ∧
    answers quiet = [] ∧ looks quiet = []

/-- What follows the first look for a shutdown, which rises before step `k`. The look is step `n` of a
cycle that has to restore `w`. -/
structure StopLaw (k n : Nat) (selection : Selection α) (w : Whitelist) (after : List (Move σ))
    (o : Outcome α) : Prop where
  /-- If the shutdown is up by then, the only call that follows is the one to restore. -/
  stopped : k ≤ n → ∃ a, answers after = [⟨.setWhitelist w.layerIds, a⟩] ∧
    o = .ofRestore selection (.error (.applying, .interrupted)) a
  /-- Otherwise the selection is applied. -/
  applied : n < k → ∃ a rest, after = .answered (.setWhitelist selection.layerIds) a :: rest
  /-- If that fails, the only call that follows is the one to restore, and the failure is kept. -/
  refused : n < k → ∀ e rest, after = .answered (.setWhitelist selection.layerIds) (.error e) :: rest →
    ∃ a, answers rest = [⟨.setWhitelist w.layerIds, a⟩] ∧
      o = .ofRestore selection (.error (.applying, e)) a
  /-- If it does not, then there is a wait, which looks at least once. If the shutdown is up by its last
  look, the only call that follows is the one to restore. If it is not, then the vote is reset, restoring
  follows, and the outcome depends only on what the two calls answer. -/
  settled : n < k → ∀ rest, after = .answered (.setWhitelist selection.layerIds) (.ok ()) :: rest →
    ∃ before raised later, rest = before ++ .polled raised :: later ∧ LastLook before later ∧
      (k ≤ n + 2 + before.length → ∃ a, answers later = [⟨.setWhitelist w.layerIds, a⟩] ∧
        o = .ofRestore selection (.error (.resetting, .interrupted)) a) ∧
      (n + 2 + before.length < k → ∃ (r : Except CallError Unit) (a : Except CallError Unit),
        answers later = [⟨.reset, r⟩, ⟨.setWhitelist w.layerIds, a⟩] ∧
        o = .ofRestore selection (r.mapError fun e => (.resetting, e)) a)

section

variable {k n : Nat} {selection : Selection α} {w : Whitelist} {rest : List (Move σ)}
  {answer : Except CallError Unit}

theorem StopLaw.of_up (up : k ≤ n) (calls : answers rest = [⟨.setWhitelist w.layerIds, answer⟩]) :
    StopLaw k n selection w rest
      (.ofRestore selection (.error (.applying, .interrupted)) answer) where
  stopped _ := ⟨answer, calls, rfl⟩
  applied late := absurd up (Nat.not_le.2 late)
  refused late := absurd up (Nat.not_le.2 late)
  settled late := absurd up (Nat.not_le.2 late)

theorem StopLaw.of_refused (late : n < k) (e : CallError)
    (calls : answers rest = [⟨.setWhitelist w.layerIds, answer⟩]) :
    StopLaw k n selection w (.answered (.setWhitelist selection.layerIds) (.error e) :: rest)
      (.ofRestore selection (.error (.applying, e)) answer) where
  stopped up := absurd up (Nat.not_le.2 late)
  applied _ := ⟨_, _, rfl⟩
  refused := by
    rintro _ e' rest' same
    cases same
    exact ⟨answer, calls, rfl⟩
  settled := by
    rintro _ rest' same
    cases same

theorem StopLaw.of_applied {o : Outcome α} {wait later : List (Move σ)} {raised : Bool}
    (late : n < k) (whole : rest = wait ++ .polled raised :: later) (last : LastLook wait later)
    (cut : k ≤ n + 2 + wait.length → ∃ a, answers later = [⟨.setWhitelist w.layerIds, a⟩] ∧
      o = .ofRestore selection (.error (.resetting, .interrupted)) a)
    (reset : n + 2 + wait.length < k → ∃ (r : Except CallError Unit) (a : Except CallError Unit),
      answers later = [⟨.reset, r⟩, ⟨.setWhitelist w.layerIds, a⟩] ∧
      o = .ofRestore selection (r.mapError fun e => (.resetting, e)) a) :
    StopLaw k n selection w (.answered (.setWhitelist selection.layerIds) (.ok ()) :: rest) o where
  stopped up := absurd up (Nat.not_le.2 late)
  applied _ := ⟨_, _, rfl⟩
  refused := by
    rintro _ e rest' same
    cases same
  settled := by
    rintro _ rest' same
    cases same
    exact ⟨wait, raised, later, whole, last, cut, reset⟩

end

/-! ## The steps forward keep the law -/

section

variable {clock : σ → Nat} {k : Nat} {selection : Selection α} {w : Whitelist}
  {steps : List Beat} {result : Except (Phase × CallError) Unit} {before v tail : List (Move σ)}

/-- Resetting is given up at the last look of the first wait, or else the vote is reset, and no call is
made after that. -/
theorem Resetting.spelled (h : Resetting steps result)
    (spelled : Spelled (Waited clock) (steps.map Beat.move) v) :
    ∃ wait quiet, answers wait = [] ∧ answers quiet = [] ∧ looks quiet = [] ∧
      (v = wait ++ .polled true :: quiet ∧ result = .error (.resetting, .interrupted) ∨
        ∃ (r : Except CallError Unit) (more : List (Move σ)),
          v = wait ++ .polled false :: (quiet ++ .answered .reset r :: more) ∧ answers more = [] ∧
          result = r.mapError fun e => (.resetting, e)) := by
  cases h with
  | cut =>
    obtain ⟨_, _, rfl, waited, rest⟩ := spelled_settled_iff.1 spelled
    obtain rfl := spelled_nil_iff.1 rest
    obtain ⟨wait, quiet, rfl, calls, after, unasked⟩ := waited.last
    exact ⟨wait, quiet, calls, after, unasked, .inl ⟨by simp, rfl⟩⟩
  | refused e =>
    obtain ⟨_, _, rfl, waited, rest⟩ := spelled_settled_iff.1 spelled
    obtain ⟨_, rfl, last⟩ := spelled_answered_iff.1 rest
    obtain rfl := spelled_nil_iff.1 last
    obtain ⟨wait, quiet, rfl, calls, after, unasked⟩ := waited.last
    exact ⟨wait, quiet, calls, after, unasked, .inr ⟨.error e, [], by simp, rfl, rfl⟩⟩
  | finished raised =>
    obtain ⟨_, _, rfl, waited, rest⟩ := spelled_settled_iff.1 spelled
    obtain ⟨_, rfl, again⟩ := spelled_answered_iff.1 rest
    obtain ⟨_, _, rfl, waited', rest'⟩ := spelled_settled_iff.1 again
    obtain rfl := spelled_nil_iff.1 rest'
    obtain ⟨wait, quiet, rfl, calls, after, unasked⟩ := waited.last
    obtain ⟨wait', quiet', rfl, calls', after', _⟩ := waited'.last
    exact ⟨wait, quiet, calls, after, unasked,
      .inr ⟨.ok (), wait' ++ .polled raised :: quiet', by simp, by simp [calls', after'], rfl⟩⟩

/-- Whether resetting is given up depends on when the shutdown rises. -/
theorem Resetting.stopLaw (h : Resetting steps result)
    (spelled : Spelled (Waited clock) (steps.map Beat.move) v) (answer : Except CallError Unit)
    (silent : answers tail = [])
    (rises : RaisedAt k (before ++ (v ++ .answered (.setWhitelist w.layerIds) answer :: tail))) :
    ∃ wait raised later,
      v ++ .answered (.setWhitelist w.layerIds) answer :: tail = wait ++ .polled raised :: later ∧
      LastLook wait later ∧
      (k ≤ before.length + wait.length → answers later = [⟨.setWhitelist w.layerIds, answer⟩] ∧
        result = .error (.resetting, .interrupted)) ∧
      (before.length + wait.length < k → ∃ r : Except CallError Unit,
        answers later = [⟨.reset, r⟩, ⟨.setWhitelist w.layerIds, answer⟩] ∧
        result = r.mapError fun e => (.resetting, e)) := by
  -- What the last look is told depends on its place alone.
  have told {wait later : List (Move σ)} {raised : Bool}
      (whole : v ++ .answered (.setWhitelist w.layerIds) answer :: tail =
        wait ++ .polled raised :: later) : raised = decide (k ≤ before.length + wait.length) := by
    rw [whole, ← List.append_assoc] at rises
    simpa using rises.look
  obtain ⟨wait, quiet, calls, after, unasked, ⟨rfl, rfl⟩ | ⟨r, more, rfl, done, rfl⟩⟩ :=
    h.spelled spelled
  · have whole : wait ++ .polled true :: quiet ++ .answered (.setWhitelist w.layerIds) answer :: tail =
        wait ++ .polled true :: (quiet ++ .answered (.setWhitelist w.layerIds) answer :: tail) := by
      simp
    have up : k ≤ before.length + wait.length := of_decide_eq_true (told whole).symm
    refine ⟨wait, true, _, whole, ⟨calls, quiet, _, _, tail, rfl, after, unasked⟩, ?_, ?_⟩
    · exact fun _ => ⟨by simp [after, silent], rfl⟩
    · exact fun late => absurd up (Nat.not_le.2 late)
  · have whole : wait ++ .polled false :: (quiet ++ .answered .reset r :: more) ++
        .answered (.setWhitelist w.layerIds) answer :: tail =
        wait ++ .polled false :: (quiet ++ .answered .reset r :: (more ++
          .answered (.setWhitelist w.layerIds) answer :: tail)) := by
      simp
    have down : ¬ k ≤ before.length + wait.length := of_decide_eq_false (told whole).symm
    refine ⟨wait, false, _, whole, ⟨calls, quiet, _, _, _, rfl, after, unasked⟩, ?_, ?_⟩
    · exact fun up => absurd up down
    · exact fun _ => ⟨r, by simp [after, done, silent], rfl⟩

/-- **The steps forward and the restore keep the law.** -/
theorem Forward.stopLaw (h : Forward selection steps result)
    (spelled : Spelled (Waited clock) (steps.map Beat.move) v) (answer : Except CallError Unit)
    (silent : answers tail = [])
    (rises : RaisedAt k (before ++ (v ++ .answered (.setWhitelist w.layerIds) answer :: tail))) :
    ∃ raised after,
      v ++ .answered (.setWhitelist w.layerIds) answer :: tail = .polled raised :: after ∧
      StopLaw k before.length selection w after (.ofRestore selection result answer) := by
  cases h with
  | stopped =>
    obtain ⟨_, rfl, rest⟩ := spelled_polled_iff.1 spelled
    obtain rfl := spelled_nil_iff.1 rest
    have up : k ≤ before.length := of_decide_eq_true rises.look.symm
    exact ⟨true, _, rfl, .of_up up (by simp [silent])⟩
  | refused e =>
    obtain ⟨_, rfl, rest⟩ := spelled_polled_iff.1 spelled
    obtain ⟨_, rfl, last⟩ := spelled_answered_iff.1 rest
    obtain rfl := spelled_nil_iff.1 last
    have down : ¬ k ≤ before.length := of_decide_eq_false rises.look.symm
    exact ⟨false, _, rfl, .of_refused (Nat.not_le.1 down) e (by simp [silent])⟩
  | applied resetting =>
    obtain ⟨_, rfl, rest⟩ := spelled_polled_iff.1 spelled
    obtain ⟨v, rfl, steps⟩ := spelled_answered_iff.1 rest
    have down : ¬ k ≤ before.length := of_decide_eq_false rises.look.symm
    have later : RaisedAt k (before ++ [.polled false,
        .answered (.setWhitelist selection.layerIds) (.ok ())] ++
        (v ++ .answered (.setWhitelist w.layerIds) answer :: tail)) := by
      simpa using rises
    obtain ⟨wait, raised, later, whole, last, cut, reset⟩ :=
      resetting.stopLaw steps answer silent later
    rw [List.length_append] at cut reset
    refine ⟨false, _, rfl, .of_applied (Nat.not_le.1 down) whole last ?_ ?_⟩
    · intro up
      obtain ⟨calls, rfl⟩ := cut up
      exact ⟨answer, calls, rfl⟩
    · intro late
      obtain ⟨r, calls, rfl⟩ := reset late
      exact ⟨r, answer, calls, rfl⟩

end

/-! ## Cycles -/

section

variable [Scalar α] {input : Input α} {settings : Settings} {retained : Option Whitelist}
  {stream : RandomStream} {clock : σ → Nat} {k : Nat}

/-- A course that comes to the first look, by reading only, with a selection to apply and a whitelist to
restore. -/
def Prepared (input : Input α) (settings : Settings) (retained : Option Whitelist)
    (stream : RandomStream) (reads : List Beat) (selection : Selection α) (w : Whitelist) : Prop :=
  ∃ drawing snap rest, reads = drawing ++ snap ∧
    Preparation input settings retained stream drawing (.ok selection, rest) ∧
    Anchored .snapshot retained snap w

/-- A course reads. Then it ends without a look for a shutdown, or the law holds of what follows. -/
theorem Course.stopLaw {bs : List Beat} {ending : Ending α}
    (h : Course input settings retained stream bs ending) {before v tail : List (Move σ)}
    (spelled : Spelled (Waited clock) (bs.map Beat.move) v) (calls : answers tail = [])
    (unasked : looks tail = []) (rises : RaisedAt k (before ++ (v ++ tail))) :
    ∃ reads rest, v ++ tail = reads.map Beat.move ++ rest ∧ OnlyReads reads ∧
      ((looks rest = [] ∧ answers rest = [] ∧
        (ending.outcome.kind = .selectionFailed ∨ ending.outcome.kind = .snapshotFailed)) ∨
      ∃ selection w raised after, rest = .polled raised :: after ∧
        Prepared input settings retained stream reads selection w ∧
        StopLaw k (before.length + reads.length) selection w after ending.outcome) := by
  cases h with
  | unprepared preparation =>
    obtain rfl := (spelled_iff_eq preparation.onlyReads.unsettled).1 spelled
    exact ⟨bs, tail, rfl, preparation.onlyReads, .inl ⟨unasked, calls, .inl rfl⟩⟩
  | unanchored preparation fresh e =>
    have reading : OnlyReads (_ ++ [.call .snapshot .getWhitelist (.error e)]) :=
      onlyReads_append_iff.2 ⟨preparation.onlyReads, by simp [OnlyReads, Beat.reads]⟩
    obtain rfl := (spelled_iff_eq reading.unsettled).1 spelled
    exact ⟨_, tail, rfl, reading, .inl ⟨unasked, calls, .inr rfl⟩⟩
  | @swapped reads snap steps selection rest w result preparation anchored forward answer =>
    have reading : OnlyReads (reads ++ snap) :=
      onlyReads_append_iff.2 ⟨preparation.onlyReads, anchored.onlyReads⟩
    rw [List.map_append, List.map_append, List.append_assoc, spelled_append_iff] at spelled
    obtain ⟨_, v, rfl, spelledReads, spelled⟩ := spelled
    obtain rfl := (spelled_iff_eq reading.unsettled).1 spelledReads
    obtain ⟨v, _, rfl, spelledSteps, spelled⟩ := spelled_append_iff.1 spelled
    obtain ⟨_, rfl, last⟩ := spelled_answered_iff.1 spelled
    obtain rfl := spelled_nil_iff.1 last
    have rises' : RaisedAt k (before ++ (reads ++ snap).map Beat.move ++
        (v ++ .answered (.setWhitelist w.layerIds) answer :: tail)) := by
      simpa using rises
    obtain ⟨raised, after, whole, law⟩ := forward.stopLaw spelledSteps answer calls rises'
    rw [List.length_append, List.length_map] at law
    refine ⟨reads ++ snap, _, ?_, reading, .inr ⟨selection, w, raised, after, rfl,
      ⟨reads, snap, rest, rfl, preparation, anchored⟩, law⟩⟩
    rw [← whole]
    simp

/-- **A shutdown leaves no step forward behind.** Whenever it rises, whatever the remote tool answers
and whatever the clock shows: a cycle that entered only reads first. Then it ends without having looked
for a shutdown, and without another call, since its selection failed or it found no whitelist to restore;
or it looks for a shutdown, and what follows depends on when it rises as `StopLaw` says. -/
theorem runExclusive_shutdown {part : σ → State} {replace : σ → State → σ} {u : List (Move σ)}
    {report : Report α}
    (path : Path (runExclusive (timedHost clock) (Process.partCell part replace) input settings stream)
      u (.ok report)) (rises : RaisedAt k u) :
    ∃ s reads rest, u = .exchanged s (replace s (part s).entered) :: (reads.map Beat.move ++ rest) ∧
      OnlyReads reads ∧
      ((looks rest = [] ∧ answers rest = [] ∧
        (report.outcome.kind = .selectionFailed ∨ report.outcome.kind = .snapshotFailed)) ∨
      ∃ selection w raised after, rest = .polled raised :: after ∧
        Prepared input settings (part s).retained stream reads selection w ∧
        StopLaw k (1 + reads.length) selection w after report.outcome) := by
  rcases (path_runExclusiveOn_iff fun _ => rfl).1 path with
    ⟨_, _, _, h⟩ | ⟨s, v, ending, kept, seen, left, _, ran, rfl, h⟩
  · cases h
  · obtain rfl := Except.ok.inj h
    obtain ⟨t, coarse, spelled⟩ := path_timed ran
    obtain ⟨bs, rfl, course⟩ := path_run_iff.1 coarse
    have rises' : RaisedAt k ([.exchanged s (replace s (part s).entered)] ++ (v ++ _)) := rises
    obtain ⟨reads, rest, whole, reading, law⟩ := course.stopLaw spelled rfl rfl rises'
    exact ⟨s, reads, rest, congrArg _ whole, reading, law⟩

end

/-! ### A shutdown during the first wait -/

/-- A cycle that puts the layer on the whitelist, and finds a shutdown when it waits. -/
def cutBeats : List Beat :=
  [.call .catalog .catalog (.ok [soleLayer]), .call .bound .getWhitelist (.ok soleWhitelist),
    .call .snapshot .getWhitelist (.ok soleWhitelist), .poll false,
    .call .apply (.setWhitelist [soleLayer.id]) (.ok ()), .settle true,
    .call .restore (.setWhitelist soleWhitelist.layerIds) (.ok ())]

/-- Its steps. The shutdown rises after the first look, while the selection is being applied. -/
def cutMoves : List (Move State) :=
  [.answered .catalog (.ok [soleLayer]), .answered .getWhitelist (.ok soleWhitelist),
    .answered .getWhitelist (.ok soleWhitelist), .polled false,
    .answered (.setWhitelist [soleLayer.id]) (.ok ()), .exchanged {} {}, .polled true,
    .answered (.setWhitelist soleWhitelist.layerIds) (.ok ())]

theorem course_cut : ∃ rest, Course soleInput soleSettings none soleStream cutBeats
    ⟨.applyFailed .resetting .interrupted, some soleWhitelist, rest⟩ := by
  obtain ⟨rest, preparation⟩ := preparation_sole
  exact ⟨rest, .swapped preparation (.read soleWhitelist) (.applied .cut) (.ok _)⟩

theorem spelled_cut :
    Spelled (fun w raised => ∀ millis, Path ((Process.timer fun _ : State => 0).wait millis) w raised)
      (cutBeats.map Beat.move) cutMoves := by
  refine spelled_answered_iff.2 ⟨_, rfl, spelled_answered_iff.2 ⟨_, rfl, ?_⟩⟩
  refine spelled_answered_iff.2 ⟨_, rfl, spelled_polled_iff.2 ⟨_, rfl, ?_⟩⟩
  refine spelled_answered_iff.2 ⟨_, rfl, ?_⟩
  refine spelled_settled_iff.2 ⟨[_, _], _, rfl, path_wait_raised _ ({} : State), ?_⟩
  exact spelled_answered_iff.2 ⟨_, rfl, .nil⟩

theorem raisedAt_cut (s s' kept kept' seen seen' left left' : State) :
    RaisedAt 6 (.exchanged s s' :: (cutMoves ++
      [.exchanged kept kept', .exchanged seen seen', .exchanged left left'])) := by
  simp [cutMoves, raisedAt_cons_iff, raisedAt_nil]

/-- The shutdown rises with the call that applies the selection. The vote is not reset, and the
whitelist is restored. -/
theorem runExclusive_shutdown_cut :
    ∃ (u : List (Move State)) (report : Report Rat) (selection : Selection Rat) (w : Whitelist)
      (reads : List Beat) (after : List (Move State)),
      Path (runExclusive (timedHost fun _ => 0) Process.cell soleInput soleSettings soleStream) u
        (.ok report) ∧
      RaisedAt 6 u ∧ report.outcome = .applyFailed .resetting .interrupted ∧
      StopLaw 6 (1 + reads.length) selection w after report.outcome := by
  obtain ⟨rest, course⟩ := course_cut
  have path : Path (runExclusive (timedHost fun _ => 0) Process.cell soleInput soleSettings soleStream)
      _ _ := (path_runExclusiveOn_iff fun _ => rfl).2
    (.inr ⟨({} : State), cutMoves, _, {}, {}, {}, rfl,
      path_of_spelled (path_run_iff.2 ⟨_, rfl, course⟩) spelled_cut, rfl, rfl⟩)
  have rises := raisedAt_cut {} (State.entered {}) {}
    (State.remember {} .applyFailed (some soleWhitelist)) {} {} {} (State.leave {})
  obtain ⟨_, reads, _, _, _, ⟨_, _, kind⟩ | ⟨selection, w, _, after, _, _, law⟩⟩ :=
    runExclusive_shutdown path rises
  · rcases kind with kind | kind <;> cases kind
  · exact ⟨_, _, selection, w, reads, after, path, rises, rfl, law⟩

end Swap

end MapBallot
