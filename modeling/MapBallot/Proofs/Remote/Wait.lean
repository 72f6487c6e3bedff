import MapBallot.Proofs.Process
import MapBallot.Remote.Wait

/-!
# `MapBallot.Proofs.Remote.Wait` — waits, look by look

In `Process`, letting the remote tool settle is one step. In fact it is a wait: it looks again and again
whether a shutdown was asked for, and at the clock. On `timedHost` an operation takes these steps one by
one. Whatever the clock shows, a wait looks at least once; it ends with the first look that finds a
shutdown, and else with a look at the clock after a last one that found none.

## Contents

* `Process.timer`, `Process.timedHost` — waiting with a clock in the shared value;
* `Looks`, `path_wait`, `Waited` — the steps of a wait; `Waited.last` — its last look;
* `Spelled`, `path_timed`, `path_of_spelled` — the steps of a program with its waits spelled out.
-/

namespace MapBallot

open Remote (Call Host Program Timer)

variable {σ β : Type}

namespace Process

/-- Looks at the shutdown and at the clock. To sleep is no step, but the clock may show any time after
it. -/
def timer (clock : σ → Nat) : Timer (Process σ) where
  raised := poll done
  now := exchange id fun s => done (clock s)
  sleep _ := pure ()

/-- Carries out the steps of programs, and waits while the remote tool settles. -/
def timedHost (clock : σ → Nat) : Host (Process σ) := { host with settle := (timer clock).wait }

end Process

open Process (Path host timer timedHost)

variable {clock : σ → Nat} {t u : List (Move σ)} {raised : Bool}

/-! ## The steps of a wait -/

theorem path_raised_iff : Path (timer clock).raised t raised ↔ t = [.polled raised] :=
  Process.path_shutdownRaised_iff

theorem path_now_iff {now : Nat} :
    Path (timer clock).now t now ↔ ∃ s, t = [.exchanged s s] ∧ now = clock s := by
  show Path (Process.partCell clock fun s _ => s).read t now ↔ _
  exact Process.path_partRead_iff

/-- The looks of a wait, and whether a shutdown was found. -/
inductive Looks : List (Move σ) → Bool → Prop
  /-- A look finds a shutdown. -/
  | cut : Looks [.polled true] true
  /-- A look finds none, and the clock shows that the wait is over. -/
  | elapsed (s : σ) : Looks [.polled false, .exchanged s s] false
  /-- A look finds none, and the clock shows that the wait is not over. -/
  | again {t : List (Move σ)} {raised : Bool} (s : σ) (rest : Looks t raised) :
      Looks (.polled false :: .exchanged s s :: t) raised

theorem path_waitUntil {deadline reached : Nat}
    (path : Path ((timer clock).waitUntil deadline reached) t raised) : Looks t raised := by
  -- The induction is on the time that is left: a span passes between two looks.
  generalize left : deadline - reached = n
  induction n using Nat.strongRecOn generalizing reached t with
  | ind n ih =>
    rw [Timer.waitUntil] at path
    obtain ⟨_, _, found, rfl, looked, go⟩ := Process.path_bind_iff.1 path
    obtain rfl := path_raised_iff.1 looked
    cases found with
    | true =>
      obtain ⟨rfl, rfl⟩ := Process.path_pure_iff.1 go
      exact .cut
    | false =>
      rw [if_neg (by simp)] at go
      obtain ⟨_, _, reading, rfl, read, go⟩ := Process.path_bind_iff.1 go
      obtain ⟨s, rfl, rfl⟩ := path_now_iff.1 read
      dsimp only at go
      by_cases elapsed : deadline ≤ max reached (clock s)
      · rw [if_pos elapsed] at go
        obtain ⟨rfl, rfl⟩ := Process.path_pure_iff.1 go
        exact .elapsed s
      · rw [if_neg elapsed, show (timer clock).sleep _ = pure () from rfl, pure_bind] at go
        have passes : 0 < Remote.pollInterval := by decide
        exact .again s (ih _ (by omega) go rfl)

/-- **The steps of a wait.** It looks at the clock, and then again and again at the shutdown. -/
theorem path_wait {millis : UInt64} (path : Path ((timer clock).wait millis) t raised) :
    ∃ s rest, t = .exchanged s s :: rest ∧ Looks rest raised := by
  obtain ⟨_, rest, start, rfl, read, go⟩ := Process.path_bind_iff.1 path
  obtain ⟨s, rfl, rfl⟩ := path_now_iff.1 read
  exact ⟨s, rest, rfl, path_waitUntil go⟩

/-- A shutdown that is up already is found at once, however long the wait. -/
theorem path_wait_raised (clock : σ → Nat) (s : σ) (millis : UInt64) :
    Path ((timer clock).wait millis) [.exchanged s s, .polled true] true := by
  refine Process.path_bind_iff.2 ⟨[_], _, _, rfl, path_now_iff.2 ⟨s, rfl, rfl⟩, ?_⟩
  rw [Timer.waitUntil]
  exact Process.path_bind_iff.2 ⟨[_], [], true, rfl, path_raised_iff.2 rfl,
    Process.path_pure_iff.2 ⟨rfl, rfl⟩⟩

/-- There is a last look, which tells what came of the others. No call is made before or after it. -/
theorem Looks.last (h : Looks t raised) :
    ∃ before quiet, t = before ++ .polled raised :: quiet ∧ answers before = [] ∧
      answers quiet = [] ∧ looks quiet = [] := by
  induction h with
  | cut => exact ⟨[], [], rfl, rfl, rfl, rfl⟩
  | elapsed s => exact ⟨[], [.exchanged s s], rfl, rfl, rfl, rfl⟩
  | again s rest ih =>
    obtain ⟨before, quiet, rfl, silent, after⟩ := ih
    exact ⟨.polled false :: .exchanged s s :: before, quiet, rfl, silent, after⟩

/-- These are the steps of a wait. -/
def Waited (clock : σ → Nat) (t : List (Move σ)) (raised : Bool) : Prop :=
  ∃ millis, Path ((timer clock).wait millis) t raised

/-- **A wait looks at least once**, even if there is nothing to wait for, and its last look tells whether
a shutdown ended it. It makes no call. -/
theorem Waited.last (h : Waited clock t raised) :
    ∃ before quiet, t = before ++ .polled raised :: quiet ∧ answers before = [] ∧
      answers quiet = [] ∧ looks quiet = [] := by
  obtain ⟨millis, path⟩ := h
  obtain ⟨s, rest, rfl, found⟩ := path_wait path
  obtain ⟨before, quiet, rfl, silent, after⟩ := found.last
  exact ⟨.exchanged s s :: before, quiet, rfl, silent, after⟩

/-! ## Waits spelled out -/

/-- The steps of `t`, with each wait spelled out as `waits` allows. -/
inductive Spelled (waits : List (Move σ) → Bool → Prop) : List (Move σ) → List (Move σ) → Prop
  | nil : Spelled waits [] []
  | same {m : Move σ} {t u : List (Move σ)} (unsettled : ∀ raised, m ≠ .settled raised)
      (rest : Spelled waits t u) : Spelled waits (m :: t) (m :: u)
  | wait {raised : Bool} {w t u : List (Move σ)} (wait : waits w raised) (rest : Spelled waits t u) :
      Spelled waits (.settled raised :: t) (w ++ u)

section

variable {waits : List (Move σ) → Bool → Prop}

@[simp]
theorem spelled_nil_iff : Spelled waits [] u ↔ u = [] := by
  constructor
  · rintro ⟨⟩
    rfl
  · rintro rfl
    exact .nil

theorem spelled_cons_iff {m : Move σ} (unsettled : ∀ raised, m ≠ .settled raised) :
    Spelled waits (m :: t) u ↔ ∃ u', u = m :: u' ∧ Spelled waits t u' := by
  constructor
  · intro h
    cases h with
    | same _ rest => exact ⟨_, rfl, rest⟩
    | wait => exact absurd rfl (unsettled _)
  · rintro ⟨u', rfl, rest⟩
    exact .same unsettled rest

theorem spelled_answered_iff {c : Call} {answer : c.Answer} :
    Spelled waits (.answered c answer :: t) u ↔
      ∃ u', u = .answered c answer :: u' ∧ Spelled waits t u' := spelled_cons_iff (by simp)

theorem spelled_polled_iff :
    Spelled waits (.polled raised :: t) u ↔ ∃ u', u = .polled raised :: u' ∧ Spelled waits t u' :=
  spelled_cons_iff (by simp)

theorem spelled_settled_iff :
    Spelled waits (.settled raised :: t) u ↔
      ∃ w u', u = w ++ u' ∧ waits w raised ∧ Spelled waits t u' := by
  constructor
  · intro h
    cases h with
    | same unsettled => exact absurd rfl (unsettled _)
    | wait wait rest => exact ⟨_, _, rfl, wait, rest⟩
  · rintro ⟨w, u', rfl, wait, rest⟩
    exact .wait wait rest

theorem spelled_append_iff {t' : List (Move σ)} :
    Spelled waits (t ++ t') u ↔ ∃ v v', u = v ++ v' ∧ Spelled waits t v ∧ Spelled waits t' v' := by
  constructor
  · intro h
    induction t generalizing u with
    | nil => exact ⟨[], u, rfl, .nil, h⟩
    | cons m t ih =>
      cases h with
      | same unsettled rest =>
        obtain ⟨v, v', rfl, ht, ht'⟩ := ih rest
        exact ⟨m :: v, v', rfl, .same unsettled ht, ht'⟩
      | wait wait rest =>
        obtain ⟨v, v', rfl, ht, ht'⟩ := ih rest
        exact ⟨_ ++ v, v', (List.append_assoc _ _ _).symm, .wait wait ht, ht'⟩
  · rintro ⟨v, v', rfl, ht, ht'⟩
    induction ht with
    | nil => exact ht'
    | same unsettled _ ih => exact .same unsettled ih
    | wait wait _ ih =>
      rw [List.append_assoc]
      exact .wait wait ih

/-- Steps without waits are spelled as they are. -/
theorem spelled_iff_eq (unsettled : ∀ raised, .settled raised ∉ t) :
    Spelled waits t u ↔ u = t := by
  induction t generalizing u with
  | nil => exact spelled_nil_iff
  | cons m t ih =>
    have first : ∀ raised, m ≠ .settled raised := by
      rintro raised rfl
      exact unsettled raised List.mem_cons_self
    have others (v : List (Move σ)) : Spelled waits t v ↔ v = t :=
      ih fun raised h => unsettled raised (List.mem_cons_of_mem m h)
    simp only [spelled_cons_iff first, others, exists_eq_right]

end

/-- On `timedHost`, letting the remote tool settle is a wait. -/
theorem runOn_settle (clock : σ → Nat) (millis : UInt64) (next : Bool → Program β) :
    (Program.settle millis next).runOn (timedHost clock) =
      (timer clock).wait millis >>= fun raised => (next raised).runOn (timedHost clock) := by
  rw [Program.runOn]
  rfl

/-- **On `timedHost`, a program takes the steps that it takes on `host`, with its waits spelled out.** -/
theorem path_timed {p : Program β} {v : β} (path : Path (p.runOn (timedHost clock)) u v) :
    ∃ t, Path (p.runOn host) t v ∧ Spelled (Waited clock) t u := by
  induction p generalizing u with
  | done value =>
    obtain ⟨rfl, rfl⟩ := Process.path_pure_iff.1 path
    exact ⟨[], .done _, .nil⟩
  | call c next ih =>
    obtain ⟨answer, u, rfl, go⟩ := Process.path_call_iff.1 path
    obtain ⟨t, ht, spelled⟩ := ih answer go
    exact ⟨_, Process.path_call_iff.2 ⟨answer, t, rfl, ht⟩, .same (by simp) spelled⟩
  | poll next ih =>
    obtain ⟨raised, u, rfl, go⟩ := Process.path_poll_iff.1 path
    obtain ⟨t, ht, spelled⟩ := ih raised go
    exact ⟨_, Process.path_poll_iff.2 ⟨raised, t, rfl, ht⟩, .same (by simp) spelled⟩
  | settle millis next ih =>
    rw [runOn_settle] at path
    obtain ⟨w, u, raised, rfl, wait, go⟩ := Process.path_bind_iff.1 path
    obtain ⟨t, ht, spelled⟩ := ih raised go
    exact ⟨_, Process.path_settle_iff.2 ⟨raised, t, rfl, ht⟩, .wait ⟨millis, wait⟩ spelled⟩
  | log entries next ih => exact ih path

/-- Where the waits are such that they may take any time, the converse holds too. -/
theorem path_of_spelled {p : Program β} {v : β} (path : Path (p.runOn host) t v)
    (spelled : Spelled (fun w raised => ∀ millis, Path ((timer clock).wait millis) w raised) t u) :
    Path (p.runOn (timedHost clock)) u v := by
  induction p generalizing t u with
  | done value =>
    obtain ⟨rfl, rfl⟩ := Process.path_pure_iff.1 path
    obtain rfl := spelled_nil_iff.1 spelled
    exact .done _
  | call c next ih =>
    obtain ⟨answer, t, rfl, go⟩ := Process.path_call_iff.1 path
    obtain ⟨u, rfl, rest⟩ := spelled_answered_iff.1 spelled
    exact Process.path_call_iff.2 ⟨answer, u, rfl, ih answer go rest⟩
  | poll next ih =>
    obtain ⟨raised, t, rfl, go⟩ := Process.path_poll_iff.1 path
    obtain ⟨u, rfl, rest⟩ := spelled_polled_iff.1 spelled
    exact Process.path_poll_iff.2 ⟨raised, u, rfl, ih raised go rest⟩
  | settle millis next ih =>
    obtain ⟨raised, t, rfl, go⟩ := Process.path_settle_iff.1 path
    obtain ⟨w, u, rfl, wait, rest⟩ := spelled_settled_iff.1 spelled
    rw [runOn_settle]
    exact Process.path_bind_iff.2 ⟨w, u, raised, rfl, wait millis, ih raised go rest⟩
  | log entries next ih => exact ih path spelled

end MapBallot
