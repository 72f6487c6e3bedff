import MapBallot.Proofs.Daemon.MainLoop

/-!
# `MapBallot.Proofs.Daemon.Progress` — every line is answered

Safety is not enough: a socket that never answers keeps every account. This module states that each line
is answered in the end, as long as no handler and not the main loop is left standing for ever while it
could go on. How they alternate is left open, and so is what the operators send meanwhile.

A handler that has something to write or to hand over does it at its next step. A handler that waits has
its command in the queue, which the main loop takes from the front only; every command comes to an end,
since it is a tree of steps; and then one command less is ahead.

## Contents

* `FairRun`, `LeadsTo`, `FairRun.ensures` — runs, and what comes about in them;
* `Process.acc_step`, `Process.exists_step` — every command comes to an end;
* `Undisturbed`, `Step.turned` — what others do to a connection, and what its handler does;
* `Waiting`, `FairRun.delivered` — a handler that waits gets its reply;
* `FairRun.turns`, `Settled`, `FairRun.settles` — a handler gets to a new line;
* `FairRun.takes`, `FairRun.answered` — every line is read, and answered.
-/

namespace MapBallot

/-- Every operation is a tree without infinite branches. -/
theorem Process.acc_step {σ β : Type} (p : Process σ β) : Acc (fun q p => ∃ m, p.Step m q) p := by
  induction p with
  | done value => exact ⟨_, fun _ ⟨_, step⟩ => nomatch step⟩
  | call c next ih | poll next ih | settle millis next ih | exchange change next ih =>
    refine ⟨_, fun _ ⟨_, step⟩ => ?_⟩
    cases step
    exact ih _

/-- Before its end, an operation can go on, whatever the shared value is. -/
theorem Process.exists_step {σ β : Type} (p : Process σ β) (x : σ) :
    (∃ v, p = .done v) ∨ (∃ after q, p.Step (.exchanged x after) q) ∨
      ∃ m q, p.Step m q ∧ ∀ y z, m ≠ .exchanged y z := by
  cases p with
  | done value => exact .inl ⟨value, rfl⟩
  | call c next => exact .inr (.inr ⟨_, _, .call c next (.error .interrupted), nofun⟩)
  | poll next => exact .inr (.inr ⟨_, _, .poll next false, nofun⟩)
  | settle millis next => exact .inr (.inr ⟨_, _, .settle millis next false, nofun⟩)
  | exchange change next => exact .inr (.inl ⟨_, _, .exchange change next x⟩)

namespace Daemon

variable {ι : Type} [DecidableEq ι]

/-! ## Runs -/

/-- Who must not be left standing. Operators send what they like, and no reply waits for a round to be
recorded. -/
def Agent.Driven : Agent ι → Prop
  | handler _ | main => True
  | operator _ | back => False

/-- At each time one step is taken, or none. A handler, or the main loop, that could go on at all times
takes a step at some time. -/
structure FairRun (start : System ι) (f : Nat → System ι) : Prop where
  start : f 0 = start
  next : ∀ n, f (n + 1) = f n ∨ ∃ a, Step a (f n) (f (n + 1))
  fair : ∀ a : Agent ι, a.Driven → ∀ n, ∃ m ≥ n, Step a (f m) (f (m + 1)) ∨ ∀ s', ¬ Step a (f m) s'

/-- Whenever the one holds, the other holds then or later. -/
def LeadsTo (f : Nat → System ι) (P Q : System ι → Prop) : Prop := ∀ n, P (f n) → ∃ m ≥ n, Q (f m)

section

variable {f : Nat → System ι} {P Q R : System ι → Prop}

omit [DecidableEq ι] in
theorem LeadsTo.trans (h : LeadsTo f P Q) (h' : LeadsTo f Q R) : LeadsTo f P R := by
  intro n hn
  obtain ⟨m, later, hm⟩ := h n hn
  obtain ⟨k, last, hk⟩ := h' m hm
  exact ⟨k, Nat.le_trans later last, hk⟩

omit [DecidableEq ι] in
theorem LeadsTo.or (h : LeadsTo f P R) (h' : LeadsTo f Q R) : LeadsTo f (fun s => P s ∨ Q s) R :=
  fun n hn => hn.elim (h n) (h' n)

variable {start : System ι}

/-- Whoever could go on, and is not hindered by others, does. -/
theorem FairRun.ensures (run : FairRun start f) (a : Agent ι) (driven : a.Driven)
    (able : ∀ n, P (f n) → ∃ s', Step a (f n) s')
    (others : ∀ n b, b ≠ a → P (f n) → Step b (f n) (f (n + 1)) → P (f (n + 1)) ∨ Q (f (n + 1)))
    (own : ∀ n, P (f n) → Step a (f n) (f (n + 1)) → Q (f (n + 1))) : LeadsTo f P Q := by
  intro n holds
  obtain ⟨m, later, acts⟩ := run.fair a driven n
  obtain ⟨d, rfl⟩ := Nat.exists_eq_add_of_le later
  clear later
  -- The induction is on the time until it takes its step, or could not.
  induction d generalizing n with
  | zero =>
    rcases acts with step | stuck
    · exact ⟨n + 1, Nat.le_succ n, own n holds step⟩
    · obtain ⟨s', step⟩ := able n holds
      exact absurd step (stuck s')
  | succ d ih =>
    have shifted : n + (d + 1) = n + 1 + d := by omega
    rw [shifted] at acts
    have onward : P (f (n + 1)) → ∃ m ≥ n, Q (f m) := fun still => by
      obtain ⟨m, later, reached⟩ := ih (n + 1) still acts
      exact ⟨m, Nat.le_of_succ_le later, reached⟩
    rcases run.next n with same | ⟨b, step⟩
    · exact onward (same ▸ holds)
    · by_cases mine : b = a
      · exact ⟨n + 1, Nat.le_succ n, own n holds (mine ▸ step)⟩
      · rcases others n b mine holds step with still | reached
        · exact onward still
        · exact ⟨n + 1, Nat.le_succ n, reached⟩

end

/-! ## What happens to a connection -/

/-- What others than its handler do to a connection: more text comes, or the main loop leaves a reply. -/
structure Undisturbed (b : Agent ι) (x x' : Connection) : Prop where
  taken : x'.taken = x.taken
  unread : x.unread <+: x'.unread
  handler : x'.handler = x.handler ∨ b = .main ∧ ∃ reply, x'.handler = x.handler.deliver reply

omit [DecidableEq ι] in
theorem undisturbed_refl (b : Agent ι) (x : Connection) : Undisturbed b x x where
  taken := rfl
  unread := List.prefix_refl _
  handler := .inl rfl

theorem undisturbed_update {b : Agent ι} {g : ι → Connection} {i j : ι} {x : Connection}
    (h : i = j → Undisturbed b (g i) x) : Undisturbed b (g i) (Function.update g j x i) := by
  by_cases own : i = j
  · subst own
    rw [Function.update_self]
    exact h rfl
  · rw [Function.update_of_ne own]
    exact undisturbed_refl b _

theorem Step.undisturbed {b : Agent ι} {s s' : System ι} (step : Step b s s') {i : ι}
    (other : b ≠ .handler i) : Undisturbed b (s.connections i) (s'.connections i) := by
  cases step with
  | send _ j cs =>
    refine undisturbed_update fun own => ?_
    subst own
    exact ⟨rfl, List.prefix_append _ _, .inl rfl⟩
  | read _ j | ask _ j | receive _ j | write _ j =>
    exact undisturbed_update fun own => absurd (congrArg Agent.handler own.symm) other
  | finish =>
    refine undisturbed_update fun own => ?_
    subst own
    exact ⟨rfl, List.prefix_refl _, .inr ⟨rfl, _, rfl⟩⟩
  | take | remote | exchange | back => exact undisturbed_refl _ _

/-- What a handler is about after its next step, where it waits for nothing. -/
def Handler.next : Handler → Option Handler
  | asking line c => some (awaiting line c none)
  | awaiting line _ (some reply) => some (replying line reply)
  | replying _ _ => some reading
  | reading | awaiting _ _ none => none

theorem Handler.deliver_of_next {h h' : Handler} (next : h.next = some h') (reply : Json) :
    h.deliver reply = h := by
  match h with
  | asking _ _ | awaiting _ _ (some _) | replying _ _ => rfl

theorem exists_step_of_next {s : System ι} {i : ι} {h h' : Handler}
    (phase : (s.connections i).handler = h) (next : h.next = some h') :
    ∃ s', Step (.handler i) s s' := by
  match h with
  | .asking _ _ => exact ⟨_, .ask _ i phase⟩
  | .awaiting _ _ (some _) => exact ⟨_, .receive _ i phase⟩
  | .replying _ _ => exact ⟨_, .write _ i phase⟩

/-- What its handler does to a connection. -/
theorem Step.turned {s s' : System ι} {i : ι} (step : Step (.handler i) s s') :
    (s.connections i).handler.next = some (s'.connections i).handler ∨
      (s.connections i).handler = .reading ∧
        (s'.connections i).taken.length = (s.connections i).taken.length + 1 := by
  generalize own : Agent.handler i = a at step
  cases step with
  | read _ j reading whole next =>
    cases own
    rw [System.change_self]
    exact .inr ⟨reading, List.length_append⟩
  | ask _ j phase | receive _ j phase | write _ j phase =>
    cases own
    rw [System.change_self, phase]
    exact .inl rfl
  | _ => cases own

/-- Nothing that was sent or read is forgotten. -/
theorem View.Step.grows {v v' : View} (step : v.Step v') :
    v.connection.sent <+: v'.connection.sent ∧ v.connection.taken <+: v'.connection.taken := by
  cases step with
  | send cs => exact ⟨List.prefix_append _ _, List.prefix_refl _⟩
  | read reading whole next => exact ⟨List.prefix_refl _, List.prefix_append _ _⟩
  | ask | produce | receive | write => exact ⟨List.prefix_refl _, List.prefix_refl _⟩

/-! ## The main loop -/

theorem Step.main_of_ne {b : Agent ι} {s s' : System ι} (step : Step b s s') (other : b ≠ .main) :
    s'.main = s.main ∧ s.requests <+: s'.requests := by
  cases step with
  | @ask _ j line c =>
    refine ⟨rfl, [(j, c)], ?_⟩
    exact List.append_assoc ..
  | take | remote | exchange | finish => exact absurd rfl other
  | send | read | receive | write | back => exact ⟨rfl, List.prefix_refl _⟩

/-- A handler waits for its reply, with so many commands ahead of its own. -/
def Waiting (i : ι) (ahead : Nat) (s : System ι) : Prop :=
  (∃ line c, (s.connections i).handler = .awaiting line c none) ∧ s.main ≠ .stopped ∧
    ∃ before c after, s.requests = before ++ (i, c) :: after ∧ before.length = ahead

/-- The reply is there. -/
def Delivered (i : ι) (s : System ι) : Prop :=
  s.main = .stopped ∨ ∃ line c reply, (s.connections i).handler = .awaiting line c (some reply)

/-- A handler that waits has its command in the queue. -/
theorem exists_waiting {s : System ι} {i : ι} (orderly : Orderly (s.view i)) {line : List Char}
    {c : Command} (awaiting : (s.connections i).handler = .awaiting line c none)
    (running : s.main ≠ .stopped) : ∃ ahead, Waiting i ahead s := by
  have mine : c ∈ only i s.requests := by
    have waits : only i s.requests = (s.connections i).handler.unanswered := orderly.outstanding_eq
    rw [waits, awaiting]
    exact .head _
  obtain ⟨⟨j, c'⟩, mem, rfl⟩ := List.mem_map.1 mine
  obtain ⟨among, own⟩ := List.mem_filter.1 mem
  obtain rfl : j = i := of_decide_eq_true own
  obtain ⟨before, after, split⟩ := List.append_of_mem among
  exact ⟨before.length, ⟨line, _, awaiting⟩, running, before, _, after, split, rfl⟩

/-- Only the main loop can do something about a handler that waits. -/
theorem Waiting.of_ne {s s' : System ι} {i : ι} {ahead : Nat} (h : Waiting i ahead s) {b : Agent ι}
    (step : Step b s s') (other : b ≠ .main) : Waiting i ahead s' ∧ s'.main = s.main := by
  obtain ⟨⟨line, c, awaiting⟩, running, before, c', after, split, length⟩ := h
  obtain ⟨same, more, grown⟩ := step.main_of_ne other
  have foreign : b ≠ .handler i := by
    rintro rfl
    rcases step.turned with turned | ⟨reading, _⟩
    · rw [awaiting] at turned
      cases turned
    · cases awaiting.symm.trans reading
  refine ⟨⟨⟨line, c, ?_⟩, same ▸ running, before, c', after ++ more, ?_, length⟩, same⟩
  · rcases (step.undisturbed foreign).handler with kept | ⟨main, _⟩
    · exact kept.trans awaiting
    · exact absurd main other
  · rw [← grown, split, List.append_assoc, List.cons_append]

/-- What the main loop does: it takes a command or goes on with it, or it leaves the reply. -/
theorem Step.main_cases {s s' : System ι} (step : Step .main s s') :
    (s'.connections = s.connections ∧ s'.requests = s.requests ∧
      ((s.main = .idle ∧ ∃ i c p, s'.main = .serving i c p) ∨
        ∃ i c p q m, s.main = .serving i c p ∧ p.Step m q ∧ s'.main = .serving i c q)) ∨
    ∃ i c reply, s.requests = (i, c) :: s'.requests ∧
      (s'.connections i).handler = (s.connections i).handler.deliver reply := by
  generalize main : Agent.main = a at step
  cases step with
  | take _ read entropy idle next =>
    refine .inl ⟨rfl, ?_, .inl ⟨idle, _, _, _, rfl⟩⟩
    rw [System.requests, System.requests, idle, next]
    rfl
  | remote _ serving move | exchange _ serving move =>
    refine .inl ⟨rfl, ?_, .inr ⟨_, _, _, _, _, serving, move, rfl⟩⟩
    rw [System.requests, System.requests, serving]
    rfl
  | @finish _ i c reply serving =>
    refine .inr ⟨i, c, reply, ?_, ?_⟩
    · have last : (Main.after c : Main ι).request ++ s.queue = s.queue := by
        rw [Main.request_after, List.nil_append]
      rw [System.requests, serving]
      exact congrArg _ last.symm
    · rw [System.change_self]
      rfl
  | _ => cases main

/-- The main loop goes on towards the command of a handler that waits: a step with the same command, a
reply to it, or one command less that is ahead. -/
theorem Waiting.of_main {s s' : System ι} {i : ι} {ahead : Nat} (h : Waiting i ahead s)
    (step : Step .main s s') :
    (Waiting i ahead s' ∧ ((s.main = .idle ∧ ∃ j c p, s'.main = .serving j c p) ∨
        ∃ j c p q m, s.main = .serving j c p ∧ p.Step m q ∧ s'.main = .serving j c q)) ∨
      Delivered i s' ∨ ∃ less < ahead, Waiting i less s' := by
  obtain ⟨⟨line, c, awaiting⟩, running, before, own, after, split, length⟩ := h
  rcases step.main_cases with ⟨connections, requests, moves⟩ | ⟨j, c', reply, gone, left⟩
  · have stays : s'.main ≠ .stopped := by
      rcases moves with ⟨_, _, _, _, serving⟩ | ⟨_, _, _, _, _, _, _, serving⟩ <;> simp [serving]
    exact .inl ⟨⟨⟨line, c, connections ▸ awaiting⟩, stays, before, own, after, requests ▸ split, length⟩,
      moves⟩
  · refine .inr ?_
    rw [gone] at split
    have arrives : (s'.connections i).handler = (s.connections i).handler ∨
        ∃ reply, (s'.connections i).handler = (s.connections i).handler.deliver reply :=
      (step.undisturbed nofun).handler.imp_right And.right
    rcases arrives with kept | ⟨reply', told⟩
    · cases before with
      | nil =>
        -- The command was its own, so the reply is there.
        obtain ⟨first, rest⟩ := List.cons.inj split
        cases first
        refine .inl (.inr ⟨line, c, reply, ?_⟩)
        rw [left, awaiting]
        rfl
      | cons first before =>
        by_cases stopped : s'.main = .stopped
        · exact .inl (.inl stopped)
        · refine .inr ⟨before.length, length ▸ Nat.lt_succ_self _, ⟨line, c, kept.trans awaiting⟩,
            stopped, before, own, after, (List.cons.inj split).2, rfl⟩
    · refine .inl (.inr ⟨line, c, reply', ?_⟩)
      rw [told, awaiting]
      rfl

/-! ## The replies -/

section

variable {start : System ι} {f : Nat → System ι}

/-- **The reply to a handler that waits is there at some time**, or the main loop has stopped. -/
theorem FairRun.delivered (run : FairRun start f) (i : ι) (ahead : Nat) :
    LeadsTo f (Waiting i ahead) (Delivered i) := by
  induction ahead using Nat.strong_induction_on with
  | _ ahead fewer =>
    have closer : LeadsTo f (fun s => Delivered i s ∨ ∃ less < ahead, Waiting i less s) (Delivered i) := by
      rintro n (done | ⟨less, lt, waits⟩)
      · exact ⟨n, Nat.le_refl n, done⟩
      · exact fewer less lt n waits
    -- A command that is being carried out comes to its end, as its tree has no infinite branch.
    have served (j : ι) (c : Command) (p : Process Console Json) :
        LeadsTo f (fun s => Waiting i ahead s ∧ s.main = .serving j c p) (Delivered i) := by
      induction p.acc_step with
      | intro p _ goesOn =>
        refine (run.ensures .main trivial (Q := fun s =>
          (∃ q m, p.Step m q ∧ Waiting i ahead s ∧ s.main = .serving j c q) ∨
            Delivered i s ∨ ∃ less < ahead, Waiting i less s) ?able ?others ?own).trans
          (LeadsTo.or ?onward closer)
        case able =>
          rintro n ⟨_, serving⟩
          rcases p.exists_step (f n).console with ⟨v, rfl⟩ | ⟨after, q, move⟩ | ⟨m, q, move, told⟩
          · exact ⟨_, .finish _ serving⟩
          · exact ⟨_, .exchange _ serving move⟩
          · exact ⟨_, .remote _ serving move told⟩
        case others =>
          rintro n b other ⟨waits, serving⟩ step
          obtain ⟨waits, same⟩ := waits.of_ne step other
          exact .inl ⟨waits, same.trans serving⟩
        case own =>
          rintro n ⟨waits, serving⟩ step
          refine (waits.of_main step).imp_left ?_
          rintro ⟨waits, ⟨idle, _⟩ | ⟨j', c', p', q, m, same, move, next⟩⟩
          · cases serving.symm.trans idle
          · cases serving.symm.trans same
            exact ⟨q, m, move, waits, next⟩
        case onward =>
          rintro n ⟨q, m, move, holds⟩
          exact goesOn q ⟨m, move⟩ n holds
    have begun : LeadsTo f (fun s => ∃ j c p, Waiting i ahead s ∧ s.main = .serving j c p)
        (Delivered i) := fun n ⟨j, c, p, holds⟩ => served j c p n holds
    have idle : LeadsTo f (fun s => Waiting i ahead s ∧ s.main = .idle) (Delivered i) := by
      refine (run.ensures .main trivial ?able ?others ?own).trans (begun.or closer)
      case able =>
        rintro n ⟨⟨_, _, before, c, after, split, _⟩, idle⟩
        rw [System.requests, idle] at split
        cases before with
        | nil => exact ⟨_, .take _ (fun _ => .error .notFound) ⟨fun _ => 0, 0⟩ idle split⟩
        | cons first before => exact ⟨_, .take _ (fun _ => .error .notFound) ⟨fun _ => 0, 0⟩ idle split⟩
      case others =>
        rintro n b other ⟨waits, idle⟩ step
        obtain ⟨waits, same⟩ := waits.of_ne step other
        exact .inl ⟨waits, same.trans idle⟩
      case own =>
        rintro n ⟨waits, idle⟩ step
        refine (waits.of_main step).imp_left ?_
        rintro ⟨waits, ⟨_, j, c, p, next⟩ | ⟨_, _, _, _, _, serving, _⟩⟩
        · exact ⟨j, c, p, waits, next⟩
        · cases idle.symm.trans serving
    intro n waits
    cases main : (f n).main with
    | idle => exact idle n ⟨waits, main⟩
    | serving j c p => exact begun n ⟨j, c, p, waits, main⟩
    | stopped => exact absurd main waits.2.1

/-- The handler is at a new line. -/
def Settled (i : ι) (s : System ι) : Prop := s.main = .stopped ∨ (s.connections i).handler = .reading

/-- A handler that does not wait for the main loop is left as it is by all others. -/
theorem Step.handler_of_ne {b : Agent ι} {s s' : System ι} (step : Step b s s') {i : ι}
    (other : b ≠ .handler i) {h : Handler} (phase : (s.connections i).handler = h)
    (ready : ∀ reply, h.deliver reply = h) : (s'.connections i).handler = h := by
  rcases (step.undisturbed other).handler with kept | ⟨_, reply, told⟩
  · exact kept.trans phase
  · rw [told, phase, ready]

/-- A handler that waits for nothing goes on. -/
theorem FairRun.turns (run : FairRun start f) (i : ι) {h h' : Handler} (next : h.next = some h') :
    LeadsTo f (fun s => (s.connections i).handler = h) fun s => (s.connections i).handler = h' := by
  refine run.ensures (.handler i) trivial ?able ?others ?own
  case able => exact fun n phase => exists_step_of_next phase next
  case others =>
    exact fun n b other phase step => .inl (step.handler_of_ne other phase (Handler.deliver_of_next next))
  case own =>
    intro n phase step
    rcases step.turned with turned | ⟨reading, _⟩
    · rw [phase, next] at turned
      exact (Option.some.inj turned).symm
    · cases phase.symm.trans reading
      cases next

theorem FairRun.settles_of_replying (run : FairRun start f) (i : ι) (line : List Char) (reply : Json) :
    LeadsTo f (fun s => (s.connections i).handler = .replying line reply) (Settled i) := by
  intro n phase
  obtain ⟨m, later, phase⟩ := run.turns i (h := .replying line reply) rfl n phase
  exact ⟨m, later, .inr phase⟩

theorem FairRun.settles_of_delivered (run : FairRun start f) (i : ι) :
    LeadsTo f (Delivered i) (Settled i) := by
  rintro n (stopped | ⟨line, c, reply, awaiting⟩)
  · exact ⟨n, Nat.le_refl n, .inl stopped⟩
  · have received := run.turns i (h := .awaiting line c (some reply)) rfl
    exact received.trans (run.settles_of_replying i line reply) n awaiting

theorem FairRun.settles_of_awaiting (run : FairRun start f) (i : ι)
    (orderly : ∀ n, Orderly ((f n).view i)) (line : List Char) (c : Command) :
    LeadsTo f (fun s => (s.connections i).handler = .awaiting line c none) (Settled i) := by
  intro n awaiting
  by_cases stopped : (f n).main = .stopped
  · exact ⟨n, Nat.le_refl n, .inl stopped⟩
  · obtain ⟨ahead, waits⟩ := exists_waiting (orderly n) awaiting stopped
    exact (run.delivered i ahead).trans (run.settles_of_delivered i) n waits

/-- **A handler gets to a new line**, whatever it is about, or the main loop has stopped. -/
theorem FairRun.settles (run : FairRun start f) (i : ι) (orderly : ∀ n, Orderly ((f n).view i)) (n : Nat) :
    ∃ m ≥ n, Settled i (f m) := by
  cases phase : ((f n).connections i).handler with
  | reading => exact ⟨n, Nat.le_refl n, .inr phase⟩
  | replying line reply => exact run.settles_of_replying i line reply n phase
  | awaiting line c reply =>
    cases reply with
    | none => exact run.settles_of_awaiting i orderly line c n phase
    | some reply => exact run.settles_of_delivered i n (.inr ⟨line, c, reply, phase⟩)
  | asking line c =>
    have asked := run.turns i (h := .asking line c) rfl
    exact asked.trans (run.settles_of_awaiting i orderly line c) n phase

/-! ## All lines -/

variable {service : Service}

/-- Whatever holds in every state holds at every time. -/
theorem FairRun.invariant (run : FairRun start f) (h : Invariant service start) (n : Nat) :
    Invariant service (f n) := by
  induction n with
  | zero => exact run.start ▸ h
  | succ n ih =>
    rcases run.next n with same | ⟨a, step⟩
    · exact same ▸ ih
    · exact ih.step step

/-- Nothing that was sent or read is forgotten. -/
theorem FairRun.grows (run : FairRun start f) (h : Invariant service start) (i : ι) {n m : Nat}
    (later : n ≤ m) : ((f n).connections i).sent <+: ((f m).connections i).sent ∧
      ((f n).connections i).taken <+: ((f m).connections i).taken := by
  induction m, later using Nat.le_induction with
  | base => exact ⟨List.prefix_refl _, List.prefix_refl _⟩
  | succ m later ih =>
    rcases run.next m with same | ⟨a, step⟩
    · rwa [same]
    · rcases step.view (run.invariant h m).under i with met | same
      · exact ⟨ih.1.trans met.grows.1, ih.2.trans met.grows.2⟩
      · have connection : (f (m + 1)).connections i = (f m).connections i :=
          congrArg View.connection same
        rwa [connection]

/-- The lines that were complete before are among those that were read and those that are complete
now. -/
theorem FairRun.lines_kept (run : FairRun start f) (h : Invariant service start) (i : ι) {n m : Nat}
    (later : n ≤ m) : Text.lines ((f n).connections i).sent <+:
      ((f m).connections i).taken ++ Text.lines ((f m).connections i).unread := by
  have now : Text.lines ((f m).connections i).sent = _ := ((run.invariant h m).orderly i).lines_eq
  obtain ⟨more, grown⟩ := (run.grows h i later).1
  have still := Text.lines_mono ((f n).connections i).sent more
  rwa [grown, now] at still

/-- A handler at a new line reads it once it is complete. -/
theorem FairRun.reads (run : FairRun start f) (i : ι) (k : Nat) :
    LeadsTo f (fun s => (s.connections i).handler = .reading ∧ (s.connections i).taken.length = k ∧
      '\n' ∈ (s.connections i).unread) fun s => k + 1 ≤ (s.connections i).taken.length := by
  refine run.ensures (.handler i) trivial ?able ?others ?own
  case able =>
    rintro n ⟨phase, _, complete⟩
    obtain ⟨line, rest, whole, next⟩ := Text.exists_line complete
    exact ⟨_, .read _ i phase whole next⟩
  case others =>
    rintro n b other ⟨phase, taken, complete⟩ step
    have untouched := step.undisturbed other
    exact .inl ⟨step.handler_of_ne other phase fun _ => rfl, untouched.taken ▸ taken,
      untouched.unread.subset complete⟩
  case own =>
    rintro n ⟨phase, taken, _⟩ step
    rcases step.turned with turned | ⟨_, longer⟩
    · rw [phase] at turned
      cases turned
    · rw [longer, taken]

/-- **Each complete line is read**, and its handler gets to the next. -/
theorem FairRun.takes (run : FairRun start f) (h : Invariant service start) (i : ι) (n k : Nat)
    (sent : k ≤ (Text.lines ((f n).connections i).sent).length) :
    ∃ m ≥ n, (f m).main = .stopped ∨ ((f m).connections i).handler = .reading ∧
      k ≤ ((f m).connections i).taken.length := by
  have orderly (n : Nat) : Orderly ((f n).view i) := (run.invariant h n).orderly i
  induction k with
  | zero =>
    obtain ⟨m, later, settled⟩ := run.settles i orderly n
    exact ⟨m, later, settled.imp_right fun phase => ⟨phase, Nat.zero_le _⟩⟩
  | succ k ih =>
    obtain ⟨m, later, stopped | ⟨phase, some⟩⟩ := ih (Nat.le_of_succ_le sent)
    · exact ⟨m, later, .inl stopped⟩
    by_cases enough : k + 1 ≤ ((f m).connections i).taken.length
    · exact ⟨m, later, .inr ⟨phase, enough⟩⟩
    -- The next line is complete, as it was at the beginning.
    have complete : '\n' ∈ ((f m).connections i).unread := by
      by_contra none
      have still := (run.lines_kept h i later).length_le
      rw [Text.lines_of_not_mem none, List.append_nil] at still
      omega
    have exactly : ((f m).connections i).taken.length = k := by omega
    obtain ⟨m', after, taken⟩ := run.reads i k m ⟨phase, exactly, complete⟩
    obtain ⟨m'', last, settled⟩ := run.settles i orderly m'
    refine ⟨m'', by omega, settled.imp_right fun phase => ⟨phase, ?_⟩⟩
    exact Nat.le_trans taken (run.grows h i last).2.length_le

/-- **Every line is answered**: at some time, all lines that were complete before have their replies, or
the main loop has stopped. -/
theorem FairRun.answered (run : FairRun start f) (h : Invariant service start) (i : ι) (n : Nat) :
    ∃ m ≥ n, (f m).main = .stopped ∨
      (Text.lines ((f n).connections i).sent).filter wantsReply <+:
        ((f m).connections i).replies.map Prod.fst := by
  obtain ⟨m, later, stopped | ⟨phase, taken⟩⟩ := run.takes h i n _ (Nat.le_refl _)
  · exact ⟨m, later, .inl stopped⟩
  refine ⟨m, later, .inr ?_⟩
  have orderly := (run.invariant h m).orderly i
  have answered : ((f m).connections i).taken.filter wantsReply =
      ((f m).connections i).replies.map Prod.fst ++ ((f m).connections i).handler.lines :=
    orderly.answered
  rw [phase, show Handler.reading.lines = [] from rfl, List.append_nil] at answered
  rw [← answered]
  have read := List.prefix_of_prefix_length_le (run.lines_kept h i later) (List.prefix_append _ _) taken
  exact read.filter _

end

end Daemon

end MapBallot
