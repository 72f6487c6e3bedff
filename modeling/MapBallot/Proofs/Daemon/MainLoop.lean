import Mathlib.Logic.Function.Basic
import MapBallot.Proofs.Daemon.Handler
import MapBallot.Proofs.History.Runs
import MapBallot.Proofs.Service.Dispatch

/-!
# `MapBallot.Proofs.Daemon.MainLoop` — all connections and the main loop

Commands of all connections wait in one queue. The main loop takes the oldest, carries it out, and leaves
the reply with the connection that it came from; after a shutdown it takes no more. Meanwhile the
dispatcher and the worker of `Dispatch.System` go on with the rounds. All of them proceed in steps of
their own, in any order. Connections stay open, and nobody but an operator asks for a shutdown: signals
to the process are left out.

Whatever the order, each connection only meets steps of `View.Step`, so its account is kept. A command
for a round puts the round in the queue of the dispatcher just before its reply is there, and nothing
else does; so the rounds are recorded in the order of these replies.

## Contents

* `System`, `Agent`, `Step` — connections, main loop, dispatcher and worker;
* `carryOut_roundStart`, `keeps_carryOut`, `Exchanged` — what a command does to what is shared;
* `Step.view` — what one connection meets;
* `Placed`, `Recorded` — the rounds that were put in the queue, and the history;
* `Invariant`, `Invariant.step` — what holds in every state.
-/

namespace MapBallot.Daemon

open Process (Keeps Path Run host)

/-! ## The system -/

/-- What the main loop is about. -/
inductive Main (ι : Type)
  | idle
  /-- A command of a connection is being carried out. -/
  | serving (i : ι) (c : Command) (rest : Process Console Json)
  /-- A shutdown was carried out. -/
  | stopped

/-- What the main loop is about after a command. -/
def Main.after {ι : Type} : Command → Main ι
  | .shutdown => stopped
  | _ => idle

/-- The connections, the main loop, and the dispatcher and the worker behind it. -/
structure System (ι : Type) where
  connections : ι → Connection := fun _ => {}
  /-- The commands that wait, each with its connection. -/
  queue : List (ι × Command) := []
  main : Main ι := .idle
  /-- The commands that were carried out, with their replies, in the order of the main loop. -/
  produced : List (ι × Command × Json) := []
  stopping : Bool := false
  back : Dispatch.System

/-- Who takes a step. -/
inductive Agent (ι : Type)
  | operator (i : ι)
  | handler (i : ι)
  | main
  /-- The dispatcher or the worker. -/
  | back

variable {ι : Type} [DecidableEq ι]

namespace System

/-- One connection changes. -/
def change (s : System ι) (i : ι) (f : Connection → Connection) : System ι :=
  { s with connections := Function.update s.connections i (f (s.connections i)) }

omit [DecidableEq ι] in
/-- What commands work on. -/
def console (s : System ι) : Console := ⟨s.back.service, s.back.pending, s.stopping⟩

omit [DecidableEq ι] in
/-- What commands leave. -/
def leave (s : System ι) (x : Console) : System ι :=
  { s with
    back := { s.back with service := x.service, pending := x.pending }
    stopping := x.stopping }

end System

/-- What happens next, and who does it. Handlers go on after the main loop has stopped, but wait in
vain. -/
inductive Step : Agent ι → System ι → System ι → Prop
  | send (s : System ι) (i : ι) (cs : List Char) : Step (.operator i) s (s.change i (·.send cs))
  | read (s : System ι) (i : ι) {line rest : List Char}
      (reading : (s.connections i).handler = .reading) (whole : '\n' ∉ line)
      (next : (s.connections i).unread = line ++ '\n' :: rest) :
      Step (.handler i) s (s.change i (·.read line rest))
  | ask (s : System ι) (i : ι) {line : List Char} {c : Command}
      (asking : (s.connections i).handler = .asking line c) :
      Step (.handler i) s
        (({ s with queue := s.queue ++ [(i, c)] }).change i (·.turn (.awaiting line c none)))
  | receive (s : System ι) (i : ι) {line : List Char} {c : Command} {reply : Json}
      (awaiting : (s.connections i).handler = .awaiting line c (some reply)) :
      Step (.handler i) s (s.change i (·.turn (.replying line reply)))
  | write (s : System ι) (i : ι) {line : List Char} {reply : Json}
      (replying : (s.connections i).handler = .replying line reply) :
      Step (.handler i) s (s.change i (·.write line reply))
  | take (s : System ι) {i : ι} {c : Command} {rest : List (ι × Command)} (read : Files.Reader)
      (entropy : RandomStream) (idle : s.main = .idle) (next : s.queue = (i, c) :: rest) :
      Step .main s { s with
        queue := rest
        main := .serving i c (Console.carryOut host Process.cell read entropy c) }
  | remote (s : System ι) {i : ι} {c : Command} {p q : Process Console Json} {m : Move Console}
      (serving : s.main = .serving i c p) (step : p.Step m q) (told : ∀ x y, m ≠ .exchanged x y) :
      Step .main s { s with main := .serving i c q }
  | exchange (s : System ι) {i : ι} {c : Command} {p q : Process Console Json} {after : Console}
      (serving : s.main = .serving i c p) (step : p.Step (.exchanged s.console after) q) :
      Step .main s { s.leave after with main := .serving i c q }
  | finish (s : System ι) {i : ι} {c : Command} {reply : Json}
      (serving : s.main = .serving i c (.done reply)) :
      Step .main s (({ s with
        main := .after c
        produced := s.produced ++ [(i, c, reply)] }).change i (·.deliver reply))
  /-- Only the main loop puts rounds in the queue or closes it. -/
  | back (s : System ι) {b : Dispatch.System} (step : Dispatch.Step s.back b)
      (rounds : b.pending.rounds <:+ s.back.pending.rounds) (closed : b.closed = s.back.closed) :
      Step .back s { s with back := b }

/-- What can come about. -/
abbrev Reaches : System ι → System ι → Prop := Relation.ReflTransGen fun s s' => ∃ a, Step a s s'

/-! ## Carrying out a command -/

/-- The round that a command starts. -/
def roundOf : Command → Option RoundStart
  | .roundStart map environment roundIndex layerId => some ⟨map, environment, roundIndex, layerId⟩
  | _ => none

/-- The reply to a round that waits to be recorded. -/
def queued (e : RoundStart) : Json :=
  Console.accepted [("queued_round", .ofNat e.roundIndex.toNat)]

/-- A round is put in the queue in one step, and then the reply is there. -/
theorem carryOut_roundStart {c : Command} {e : RoundStart} (round : roundOf c = some e)
    (read : Files.Reader) (entropy : RandomStream) :
    Console.carryOut host Process.cell read entropy c =
      .exchange (fun x => { x with pending := x.pending.push e }) fun _ => .done (queued e) := by
  cases c with
  | roundStart map environment roundIndex layerId =>
    cases round
    rfl
  | preview | reload | status | shutdown => cases round

/-- Every other command leaves alone the history, the state of the cycles, and the rounds that wait. -/
theorem keeps_carryOut {c : Command} (none : roundOf c = none) (read : Files.Reader)
    (entropy : RandomStream) : (Console.carryOut host Process.cell read entropy c).Keeps
      fun x => (x.service.tracker, x.service.swap, x.pending) := by
  cases c with
  | roundStart => cases none
  | preview =>
    refine Process.keeps_bind ?_ fun _ => trivial
    refine Process.keeps_bind (Process.keeps_bind Process.keeps_partRead fun _ => trivial) fun s => ?_
    refine Process.keeps_bind ?_ fun state => Process.keeps_bind (Process.keeps_runOn _) fun _ => trivial
    refine Process.keeps_bind ?_ fun _ => trivial
    exact Process.keeps_bind Process.keeps_partRead fun _ => trivial
  | reload =>
    refine Process.keeps_bind Process.keeps_partRead fun x => ?_
    refine Process.keeps_bind (Process.keeps_pure _) fun _ => ?_
    exact Process.keeps_bind (Process.keeps_partUpdate fun _ => rfl) fun _ => trivial
  | status => exact Process.keeps_bind Process.keeps_partRead fun _ => trivial
  | shutdown => exact Process.keeps_bind (Process.keeps_partUpdate fun _ => rfl) fun _ => trivial

/-- A command for a round is at its beginning or at its end. -/
theorem run_roundStart {c : Command} {e : RoundStart} (round : roundOf c = some e)
    {read : Files.Reader} {entropy : RandomStream} {t : List (Move Console)} {p : Process Console Json}
    (run : (Console.carryOut host Process.cell read entropy c).Run t p) :
    p = .exchange (fun x => { x with pending := x.pending.push e }) (fun _ => .done (queued e)) ∨
      p = .done (queued e) := by
  rw [carryOut_roundStart round] at run
  induction run with
  | start => exact .inl rfl
  | step _ step ih =>
    rcases ih with rfl | rfl
    · cases step
      exact .inr rfl
    · cases step

/-- The reply to a round. -/
theorem Made.eq_queued {c : Command} {e : RoundStart} {reply : Json} (made : Made c reply)
    (round : roundOf c = some e) : reply = queued e := by
  obtain ⟨read, entropy, t, path⟩ := made
  rcases run_roundStart round path.run with first | last
  · cases first
  · cases last
    rfl

/-- What a replacement by a command does. -/
structure Exchanged (c : Command) (before after : Console) (q : Process Console Json) : Prop where
  tracker : after.service.tracker = before.service.tracker
  swap : after.service.swap = before.service.swap
  rounds : (roundOf c = none ∧ after.pending = before.pending) ∨
    ∃ e, roundOf c = some e ∧ after.pending = before.pending.push e ∧ q = .done (queued e)

theorem exchanged_of_run {c : Command} {read : Files.Reader} {entropy : RandomStream}
    {t : List (Move Console)} {p q : Process Console Json} {before after : Console}
    (run : (Console.carryOut host Process.cell read entropy c).Run t p)
    (step : p.Step (.exchanged before after) q) : Exchanged c before after q := by
  cases round : roundOf c with
  | none =>
    have kept := ((keeps_carryOut round read entropy).run run).exchanged step
    simp only [Prod.mk.injEq] at kept
    exact ⟨kept.1, kept.2.1, .inl ⟨round, kept.2.2⟩⟩
  | some e =>
    rcases run_roundStart round run with rfl | rfl
    · cases step
      exact ⟨rfl, rfl, .inr ⟨e, round, rfl, rfl⟩⟩
    · cases step

/-! ## What one connection meets -/

/-- What belongs to one connection. -/
def only {α : Type} (i : ι) (l : List (ι × α)) : List α := (l.filter fun x => x.1 = i).map Prod.snd

section

variable {α : Type} {i j : ι} (l : List (ι × α)) (a : α)

theorem only_append (l' : List (ι × α)) : only i (l ++ l') = only i l ++ only i l' := by
  rw [only, List.filter_append, List.map_append, only, only]

theorem only_cons_self : only i ((i, a) :: l) = a :: only i l := by
  rw [only, List.filter_cons_of_pos (by simp), List.map_cons, only]

theorem only_cons_of_ne (h : j ≠ i) : only i ((j, a) :: l) = only i l := by
  rw [only, List.filter_cons_of_neg (by simpa using h), only]

theorem only_concat_self : only i (l ++ [(i, a)]) = only i l ++ [a] := by
  rw [only_append, only_cons_self]
  rfl

theorem only_concat_of_ne (h : j ≠ i) : only i (l ++ [(j, a)]) = only i l := by
  rw [only_append, only_cons_of_ne _ _ h]
  exact List.append_nil _

end

namespace Main

/-- The command that is being carried out. -/
def request : Main ι → List (ι × Command)
  | serving i c _ => [(i, c)]
  | _ => []

/-- The command that is carried out, and its reply. -/
def finished : Main ι → List (ι × Command × Json)
  | serving i c (.done reply) => [(i, c, reply)]
  | _ => []

end Main

namespace System

/-- The commands that are not carried out yet. -/
def requests (s : System ι) : List (ι × Command) := s.main.request ++ s.queue

/-- One connection of all, with what the main loop has to do with it. -/
def view (s : System ι) (i : ι) : View := ⟨s.connections i, only i s.requests, only i s.produced⟩

theorem change_self (s : System ι) (i : ι) (f : Connection → Connection) :
    (s.change i f).connections i = f (s.connections i) := Function.update_self ..

theorem change_of_ne (s : System ι) {i j : ι} (h : j ≠ i) (f : Connection → Connection) :
    (s.change i f).connections j = s.connections j := Function.update_of_ne h ..

end System

/-- The main loop is carrying out the command that it took. -/
def Underway (s : System ι) : Prop :=
  ∀ i c p, s.main = .serving i c p →
    ∃ read entropy t, (Console.carryOut host Process.cell read entropy c).Run t p

theorem Underway.step {a : Agent ι} {s s' : System ι} (h : Underway s) (step : Step a s s') :
    Underway s' := by
  cases step with
  | send | read | ask | receive | write | back => exact h
  | take _ read entropy idle next =>
    rintro _ _ _ ⟨⟩
    exact ⟨read, entropy, [], .start⟩
  | remote _ serving move | exchange _ serving move =>
    rintro _ _ _ ⟨⟩
    obtain ⟨read, entropy, t, run⟩ := h _ _ _ serving
    exact ⟨read, entropy, _, run.step move⟩
  | @finish _ _ c _ serving =>
    intro i c' p next
    cases c <;> cases next

omit [DecidableEq ι] in
/-- The reply at the end of a command. -/
theorem Underway.made {s : System ι} (h : Underway s) {i : ι} {c : Command} {reply : Json}
    (serving : s.main = .serving i c (.done reply)) : Made c reply := by
  obtain ⟨read, entropy, t, run⟩ := h _ _ _ serving
  exact ⟨read, entropy, t, run.path⟩

omit [DecidableEq ι] in
theorem Main.request_after (c : Command) : (Main.after c : Main ι).request = [] := by
  cases c <;> rfl

theorem System.view_eq {s : System ι} {i : ι} {v : View} (connection : s.connections i = v.connection)
    (requests : only i s.requests = v.outstanding) (produced : only i s.produced = v.produced) :
    s.view i = v := by
  rw [view, connection, requests, produced]

theorem View.Step.of_eq {s : System ι} {i : ι} {v v' : View} (met : v.Step v')
    (connection : s.connections i = v'.connection) (requests : only i s.requests = v'.outstanding)
    (produced : only i s.produced = v'.produced) : v.Step (s.view i) := by
  rwa [System.view_eq connection requests produced]

/-- What happens to one connection only is noticed by that connection only. -/
theorem System.view_change (s : System ι) (i j : ι) (f : Connection → Connection)
    (met : (s.view j).Step { s.view j with connection := f (s.connections j) }) :
    (s.view i).Step ((s.change j f).view i) ∨ (s.change j f).view i = s.view i := by
  by_cases own : i = j
  · subst own
    exact .inl (met.of_eq (s.change_self i f) rfl rfl)
  · exact .inr (view_eq (s.change_of_ne own f) rfl rfl)

/-- **Whatever happens, a connection meets one of its own steps or does not notice.** -/
theorem Step.view {a : Agent ι} {s s' : System ι} (step : Step a s s') (under : Underway s) (i : ι) :
    (s.view i).Step (s'.view i) ∨ s'.view i = s.view i := by
  cases step with
  | send _ j cs => exact s.view_change i j _ (.send _ cs)
  | read _ j reading whole next => exact s.view_change i j _ (.read _ reading whole next)
  | receive _ j awaiting => exact s.view_change i j _ (.receive _ awaiting)
  | write _ j replying => exact s.view_change i j _ (.write _ replying)
  | @ask _ j line c asking =>
    have requests : s.main.request ++ (s.queue ++ [(j, c)]) = s.requests ++ [(j, c)] :=
      (List.append_assoc ..).symm
    by_cases own : i = j
    · subst own
      have more : only i (s.main.request ++ (s.queue ++ [(i, c)])) = only i s.requests ++ [c] := by
        rw [requests, only_concat_self]
      exact .inl ((View.Step.ask (s.view i) asking).of_eq (System.change_self ..) more rfl)
    · have same : only i (s.main.request ++ (s.queue ++ [(j, c)])) = only i s.requests := by
        rw [requests, only_concat_of_ne _ _ (Ne.symm own)]
      exact .inr (System.view_eq (System.change_of_ne _ own _) same rfl)
  | @finish _ j c reply serving =>
    have before : s.requests = (j, c) :: s.queue := by
      rw [System.requests, serving]
      rfl
    have after : (Main.after c : Main ι).request ++ s.queue = s.queue := by
      rw [Main.request_after, List.nil_append]
    by_cases own : i = j
    · subst own
      have next : (s.view i).outstanding = c :: only i s.queue := by
        rw [System.view, before, only_cons_self]
      have met := View.Step.produce (s.view i) next (under.made serving)
      exact .inl (met.of_eq (System.change_self ..) (congrArg _ after) (only_concat_self _ _))
    · have same : only i s.queue = only i s.requests := by
        rw [before, only_cons_of_ne _ _ (Ne.symm own)]
      exact .inr (System.view_eq (System.change_of_ne _ own _) ((congrArg _ after).trans same)
        (only_concat_of_ne _ _ (Ne.symm own)))
  | take _ read entropy idle next =>
    refine .inr (System.view_eq rfl (congrArg _ ?_) rfl)
    rw [System.requests, System.requests, idle, next]
    rfl
  | remote _ serving | exchange _ serving =>
    refine .inr (System.view_eq rfl (congrArg _ ?_) rfl)
    rw [System.requests, System.requests, serving]
    rfl
  | back => exact .inr rfl

/-! ## Rounds -/

/-- The round that the dispatcher took from the queue and has not recorded yet. -/
def held : Dispatch.Dispatcher → List RoundStart
  | .holding e => [e]
  | _ => []

/-- The rounds that were put in the queue of the dispatcher, recorded or not, in their order. -/
def put (b : Dispatch.System) : List RoundStart :=
  b.outcomes.map Prod.fst ++ held b.dispatcher ++ b.pending.rounds

/-- The dispatcher and the worker lose no round and bring none in. -/
theorem put_step {b b' : Dispatch.System} (step : Dispatch.Step b b')
    (rounds : b'.pending.rounds <:+ b.pending.rounds) : put b' = put b := by
  unfold put
  cases step with
  | push e opened =>
    have shorter : (b.pending.rounds ++ [e]).length ≤ b.pending.rounds.length := rounds.length_le
    rw [List.length_append] at shorter
    exact absurd shorter (Nat.not_succ_le_self _)
  | @takeRound e rest waiting taken =>
    dsimp only
    rw [waiting, (Dispatch.takeRound_eq_some taken).1]
    simp [held]
  | @record e now holding =>
    rw [holding]
    simp [held, Dispatch.System.record]
  | leave recorded wanted | pass recorded unwanted =>
    rw [recorded]
    rfl
  | endDispatcher waiting closed drained =>
    rw [waiting]
    rfl
  | takeTrigger entropy waiting taken =>
    dsimp only
    rw [(Dispatch.takeTrigger_eq_some taken).2.2]
  | close | serve | finish | endWorker => rfl

/-- The rounds of some commands that were carried out. -/
def roundsOf (carried : List (ι × Command × Json)) : List RoundStart :=
  carried.filterMap fun entry => roundOf entry.2.1

/-- The rounds in the queue of the dispatcher, and those that it took from there, are those of the
commands that were carried out, in the order of their replies. -/
def Placed (s : System ι) : Prop := put s.back = roundsOf (s.produced ++ s.main.finished)

omit [DecidableEq ι] in
/-- What is not at its end counts for nothing yet. -/
theorem finished_of_step {i : ι} {c : Command} {p q : Process Console Json} {m : Move Console}
    (step : p.Step m q) : (Main.serving i c p).finished = [] := by
  cases step <;> rfl

omit [DecidableEq ι] in
/-- A command without a round counts for nothing at its end, either. -/
theorem roundsOf_finished {i : ι} {c : Command} (none : roundOf c = none) (p : Process Console Json) :
    roundsOf (Main.serving i c p).finished = [] := by
  cases p with
  | done reply => exact List.filterMap_cons_none none
  | call | poll | settle | exchange => rfl

omit [DecidableEq ι] in
theorem roundsOf_append (xs ys : List (ι × Command × Json)) :
    roundsOf (xs ++ ys) = roundsOf xs ++ roundsOf ys := List.filterMap_append

theorem Placed.step {a : Agent ι} {s s' : System ι} (h : Placed s) (under : Underway s)
    (step : Step a s s') : Placed s' := by
  unfold Placed at h ⊢
  rw [roundsOf_append] at h ⊢
  cases step with
  | send | read | ask | receive | write => exact h
  | @take _ i c rest read entropy idle next =>
    rw [idle] at h
    dsimp only
    cases round : roundOf c with
    | none => rwa [roundsOf_finished round]
    | some e => rwa [carryOut_roundStart round]
  | @remote _ i c p q m serving move told =>
    rw [serving, finished_of_step move] at h
    dsimp only
    cases round : roundOf c with
    | none => rwa [roundsOf_finished round]
    | some e =>
      -- A command for a round makes no call and asks for nothing.
      obtain ⟨read, entropy, t, run⟩ := under _ _ _ serving
      rcases run_roundStart round run with rfl | rfl
      · cases move
        exact absurd rfl (told _ _)
      · cases move
  | @exchange _ i c p q after serving move =>
    rw [serving, finished_of_step move] at h
    obtain ⟨read, entropy, t, run⟩ := under _ _ _ serving
    rcases (exchanged_of_run run move).rounds with ⟨round, same⟩ | ⟨e, round, pushed, rfl⟩
    · rw [roundsOf_finished round]
      show _ ++ after.pending.rounds = _
      rw [same]
      exact h
    · have last : roundsOf [(i, c, queued e)] = [e] := List.filterMap_cons_some round
      show _ ++ after.pending.rounds = _ ++ roundsOf [(i, c, queued e)]
      rw [pushed, last]
      show _ ++ (s.back.pending.rounds ++ [e]) = _ ++ [e]
      rw [← List.append_assoc]
      exact congrArg (· ++ [e]) (h.trans (List.append_nil _))
  | @finish _ i c reply serving =>
    rw [serving] at h
    show put s.back = roundsOf (s.produced ++ [(i, c, reply)]) ++ roundsOf (Main.after c).finished
    have last : (Main.after c : Main ι).finished = [] := by
      cases c <;> rfl
    rw [last, roundsOf_append]
    exact h.trans (List.append_nil _).symm
  | back _ move rounds closed => exact (put_step move rounds).trans h

/-- The history is that of recording the rounds that the dispatcher recorded, in their order. -/
def Recorded (start : Service) (b : Dispatch.System) : Prop :=
  ∃ plays, List.Forall₂ (fun entry play => ∃ now, play = entry.1.play now) b.outcomes plays ∧
    b.service.tracker = start.tracker.after plays

theorem Recorded.step {start : Service} {b b' : Dispatch.System} (h : Recorded start b)
    (sound : Dispatch.Sound b) (step : Dispatch.Step b b') : Recorded start b' := by
  obtain ⟨plays, told, history⟩ := h
  cases step with
  | @record e now holding =>
    refine ⟨plays ++ [e.play now], ?_, ?_⟩
    · exact List.rel_append told (.cons ⟨now, rfl⟩ .nil)
    · rw [Tracker.after_concat, ← history]
      rfl
  | serve serving move _ made =>
    exact ⟨plays, told, (sound.tracker_eq serving move made).trans history⟩
  | _ => exact ⟨plays, told, history⟩

/-! ## Every state -/

/-- The main loop stops after a shutdown only. -/
def Halted (s : System ι) : Prop := s.main = .stopped → ∃ i reply, (i, .shutdown, reply) ∈ s.produced

theorem Halted.step {a : Agent ι} {s s' : System ι} (h : Halted s) (step : Step a s s') : Halted s' := by
  cases step with
  | send | read | ask | receive | write | back => exact h
  | take | remote | exchange => exact nofun
  | @finish _ i c reply serving =>
    intro stopped
    cases c with
    | shutdown => exact ⟨i, reply, List.mem_append_right _ (.head _)⟩
    | roundStart | preview | reload | status => cases stopped

/-- A cycle in progress does not notice what leaves its state alone. -/
theorem sound_of_swap {b b' : Dispatch.System} (h : Dispatch.Sound b) (worker : b'.worker = b.worker)
    (swap : b'.service.swap = b.service.swap) : Dispatch.Sound b' := by
  unfold Dispatch.Sound at h ⊢
  rw [worker, swap]
  exact h

/-- What holds in every state. -/
structure Invariant (start : Service) (s : System ι) : Prop where
  under : Underway s
  orderly : ∀ i, Orderly (s.view i)
  sound : Dispatch.Sound s.back
  placed : Placed s
  recorded : Recorded start s.back
  halted : Halted s

theorem Invariant.start {service : Service} (idle : service.swap.busy = false) :
    Invariant service ({ back := { service := service } } : System ι) where
  under := nofun
  orderly _ := orderly_start
  sound := idle
  placed := rfl
  recorded := ⟨[], .nil, rfl⟩
  halted := nofun

/-- **Every step keeps what holds.** -/
theorem Invariant.step {start : Service} {a : Agent ι} {s s' : System ι} (h : Invariant start s)
    (step : Step a s s') : Invariant start s' where
  under := h.under.step step
  orderly i := (step.view h.under i).elim (h.orderly i).step fun same => same ▸ h.orderly i
  placed := h.placed.step h.under step
  halted := h.halted.step step
  sound := by
    cases step with
    | exchange _ serving move =>
      obtain ⟨read, entropy, t, run⟩ := h.under _ _ _ serving
      exact sound_of_swap h.sound rfl (exchanged_of_run run move).swap
    | back _ move rounds closed => exact h.sound.step move
    | _ => exact h.sound
  recorded := by
    cases step with
    | exchange _ serving move =>
      obtain ⟨read, entropy, t, run⟩ := h.under _ _ _ serving
      obtain ⟨plays, told, history⟩ := h.recorded
      exact ⟨plays, told, (exchanged_of_run run move).tracker.trans history⟩
    | back _ move rounds closed => exact h.recorded.step h.sound move
    | _ => exact h.recorded

theorem Invariant.reaches {start : Service} {s s' : System ι} (h : Invariant start s)
    (reaches : Reaches s s') : Invariant start s' := by
  induction reaches with
  | refl => exact h
  | tail _ step ih =>
    obtain ⟨a, step⟩ := step
    exact ih.step step

end MapBallot.Daemon
