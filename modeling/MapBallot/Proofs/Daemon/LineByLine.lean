import MapBallot.Proofs.Daemon.Progress

/-!
# `MapBallot.Proofs.Daemon.LineByLine` — the socket of the operators

However many operators are connected, whatever they send, and however their handlers, the main loop and
the service alternate: each connection gets one reply for each line that is not blank, in the order of its
lines; lines that are no commands go no further than the handler; and the rounds of the others are recorded
in the order in which their replies were produced. This holds until a shutdown was carried out. The text
may come in any pieces.

## Contents

* `InOrder`, `Invariant.inOrder` — the rounds, by the replies of the main loop;
* `Quiet`, `exists_fairRun` — runs that come to rest;
* `answers_line_by_line` — the socket as a whole.
-/

namespace MapBallot.Daemon

variable {ι : Type} [DecidableEq ι]

/-- The rounds, by the replies of the main loop. -/
structure InOrder (start : Service) (s : System ι) : Prop where
  /-- The rounds that were put in the queue of the dispatcher are those of the commands that were
  carried out, each once, in the order of their replies. -/
  placed : put s.back = roundsOf (s.produced ++ s.main.finished)
  replied : ∀ entry ∈ s.produced ++ s.main.finished, ∀ e, roundOf entry.2.1 = some e →
    entry.2.2 = queued e
  /-- The first of them are recorded, in the same order. -/
  recorded : Recorded start s.back

omit [DecidableEq ι] in
theorem Main.serving_of_finished {main : Main ι} {entry : ι × Command × Json}
    (h : entry ∈ main.finished) : main = .serving entry.1 entry.2.1 (.done entry.2.2) := by
  match main with
  | .serving i c (.done reply) =>
    obtain rfl := List.mem_singleton.1 h
    rfl

theorem Invariant.inOrder {start : Service} {s : System ι} (h : Invariant start s) : InOrder start s where
  placed := h.placed
  replied := by
    rintro ⟨i, c, reply⟩ mem e round
    refine Made.eq_queued ?_ round
    rcases List.mem_append.1 mem with produced | last
    · have own : (c, reply) ∈ (s.view i).produced :=
        List.mem_map.2 ⟨_, List.mem_filter.2 ⟨produced, decide_eq_true rfl⟩, rfl⟩
      exact (h.orderly i).made _ own
    · exact h.under.made (Main.serving_of_finished last)
  recorded := h.recorded

/-! ## Runs that come to rest -/

/-- Nothing is left to do for the handlers and the main loop. -/
structure Quiet (s : System ι) : Prop where
  main : s.main = .idle
  queue : s.queue = []
  handler : ∀ i, (s.connections i).handler = .reading
  unread : ∀ i, '\n' ∉ (s.connections i).unread

theorem Quiet.stuck {s s' : System ι} (h : Quiet s) {a : Agent ι} (driven : a.Driven) : ¬ Step a s s' := by
  intro step
  cases step with
  | send | back => exact driven
  | read _ i reading whole next => exact h.unread i (next ▸ List.mem_append_right _ (.head _))
  | ask _ i phase | receive _ i phase | write _ i phase => cases (h.handler i).symm.trans phase
  | take _ read entropy idle next => cases h.queue.symm.trans next
  | remote _ serving | exchange _ serving | finish _ serving => cases h.main.symm.trans serving

/-- What can come to rest does so in a fair run. -/
theorem exists_fairRun {start s : System ι} (reached : Reaches start s) (quiet : Quiet s) :
    ∃ f n, FairRun start f ∧ f n = s := by
  induction reached using Relation.ReflTransGen.head_induction_on with
  | refl => exact ⟨fun _ => s, 0, ⟨rfl, fun _ => .inl rfl, fun a driven n =>
      ⟨n, Nat.le_refl n, .inr fun _ => quiet.stuck driven⟩⟩, rfl⟩
  | @head earlier next step _ ih =>
    obtain ⟨f, n, run, reached⟩ := ih
    obtain rfl := run.start
    refine ⟨fun k => k.casesOn earlier f, n + 1, ⟨rfl, ?_, ?_⟩, reached⟩
    · rintro (_ | k)
      · exact .inr step
      · exact run.next k
    · intro a driven k
      obtain ⟨m, later, acts⟩ := run.fair a driven k
      exact ⟨m + 1, Nat.le_succ_of_le later, acts⟩

/-! ## The socket -/

/-- **The socket answers line by line.** In every state that can come about, each connection has a reply
for each of its first lines that are not blank, and the rounds are recorded in the order of the replies
to them. The main loop stops after a shutdown only. If nobody who could go on is left standing, then all
lines that are complete at some time have their replies later, unless the main loop stops. -/
theorem answers_line_by_line {service : Service} (idle : service.swap.busy = false) :
    (∀ s : System ι, Reaches { back := { service := service } } s →
      (∀ i, LineByLine (s.view i)) ∧ InOrder service s ∧
        (s.main = .stopped → ∃ i reply, (i, .shutdown, reply) ∈ s.produced)) ∧
    ∀ f : Nat → System ι, FairRun { back := { service := service } } f → ∀ i n, ∃ m ≥ n,
      (f m).main = .stopped ∨ (Text.lines ((f n).connections i).sent).filter wantsReply <+:
        ((f m).connections i).replies.map Prod.fst := by
  have begun : Invariant service ({ back := { service := service } } : System ι) := .start idle
  refine ⟨fun s reached => ?_, fun f run i n => run.answered begun i n⟩
  have h := begun.reaches reached
  exact ⟨fun i => (h.orderly i).lineByLine, h.inOrder, h.halted⟩

/-- The line of an operator for a round. -/
def foyLine : List Char := "round foy day 7".toList

/-- A line that is no command. -/
def voteLine : List Char := "vote".toList

theorem after_foyLine : Handler.after foyLine = .asking foyLine (.roundStart "foy" .day 7 none) := by
  have parsed : Command.parse (String.ofList foyLine) = .ok (.roundStart "foy" .day 7 none) := by
    decide +kernel
  rw [after_eq, parsed]
  rfl

theorem after_voteLine :
    Handler.after voteLine = .replying voteLine (Console.refused "unknown command: vote") := by
  have parsed : Command.parse (String.ofList voteLine) = .error (.unknownCommand "vote") := by
    decide +kernel
  rw [after_eq, parsed]
  rfl

/-- Two operators send a line each, and the handler of the second refuses its own. -/
theorem exists_answered : ∃ s : System Bool,
    Reaches { back := { service := Dispatch.freshService } } s ∧ Quiet s ∧
      (s.connections false).sent = foyLine ++ ['\n'] ∧
      (s.connections false).replies = [(foyLine, queued Dispatch.foyRound)] ∧
      (s.connections true).replies = [(voteLine, Console.refused "unknown command: vote")] ∧
      s.produced = [(false, .roundStart "foy" .day 7 none, queued Dispatch.foyRound)] := by
  have foyWhole : '\n' ∉ foyLine := by decide
  have voteWhole : '\n' ∉ voteLine := by decide
  have carried (x : Console) : (Console.carryOut Process.host Process.cell (fun _ => .error .notFound)
      ⟨fun _ => 0, 0⟩ (.roundStart "foy" .day 7 none)).Step
        (.exchanged x { x with pending := x.pending.push Dispatch.foyRound })
        (.done (queued Dispatch.foyRound)) := by
    rw [carryOut_roundStart rfl]
    exact .exchange _ _ x
  have sent : Reaches ({ back := { service := Dispatch.freshService } } : System Bool) _ :=
    .single ⟨_, .send _ false (foyLine ++ ['\n'])⟩
  have asked := (sent.tail ⟨_, .read _ false rfl foyWhole rfl⟩).tail
    ⟨_, .ask _ false after_foyLine⟩
  have taken := asked.tail ⟨_, .take _ (fun _ => .error .notFound) ⟨fun _ => 0, 0⟩ rfl rfl⟩
  have produced := (taken.tail ⟨_, .exchange _ rfl (carried _)⟩).tail ⟨_, .finish _ rfl⟩
  have written := (produced.tail ⟨_, .receive _ false rfl⟩).tail ⟨_, .write _ false rfl⟩
  have read := (written.tail ⟨_, .send _ true (voteLine ++ ['\n'])⟩).tail
    ⟨_, .read _ true rfl voteWhole rfl⟩
  have refused := read.tail ⟨_, .write _ true after_voteLine⟩
  refine ⟨_, refused, ⟨rfl, rfl, ?_, ?_⟩, rfl, rfl, rfl, rfl⟩
  · rintro (_ | _) <;> rfl
  · rintro (_ | _) <;> exact List.not_mem_nil

/-- Both get a line, the round is in the queue, and the line of the first counts as answered from then
on. -/
theorem answers_line_by_line_foy : Dispatch.freshService.swap.busy = false ∧
    ∃ (f : Nat → System Bool) (n : Nat), FairRun { back := { service := Dispatch.freshService } } f ∧
      Text.lines ((f n).connections false).received =
        [(Json.print (queued Dispatch.foyRound)).toList] ∧
      Text.lines ((f n).connections true).received =
        [(Json.print (Console.refused "unknown command: vote")).toList] ∧
      put (f n).back = [Dispatch.foyRound] ∧
      ∃ m ≥ n, (f m).main = .stopped ∨
        [foyLine] <+: ((f m).connections false).replies.map Prod.fst := by
  obtain ⟨s, reached, quiet, sent, told, refused, produced⟩ := exists_answered
  obtain ⟨f, n, run, rfl⟩ := exists_fairRun reached quiet
  obtain ⟨every, later⟩ := @answers_line_by_line Bool _ Dispatch.freshService rfl
  obtain ⟨connection, rounds, _⟩ := every _ reached
  refine ⟨rfl, f, n, run, ?_, ?_, ?_, ?_⟩
  · exact (connection false).received.trans (congrArg (List.map _) told)
  · exact (connection true).received.trans (congrArg (List.map _) refused)
  · rw [rounds.placed, produced, quiet.main]
    rfl
  · obtain ⟨m, after, answered⟩ := later f run false n
    refine ⟨m, after, answered.imp_right fun complete => ?_⟩
    have lines : (Text.lines (foyLine ++ ['\n'])).filter wantsReply = [foyLine] := by decide
    rwa [sent, lines] at complete

end MapBallot.Daemon
