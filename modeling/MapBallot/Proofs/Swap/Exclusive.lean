import Mathlib.Data.List.Induction
import MapBallot.Proofs.Swap.Midway

/-!
# `MapBallot.Proofs.Swap.Exclusive` — cycles that many callers start

Anybody may start a cycle at any time. A flag lets one caller in: whoever finds it raised turns away,
and whoever raises it lowers it at the end, whatever the outcome. Nobody else touches the state
meanwhile, so the cycles of all callers are cycles one after the other: each finds what the one before
left, above all the whitelist that it could not restore.

Every statement is about all orders of the steps of all callers, and about all answers of the remote tool.

## Contents

* `Interleaved` — calls that start cycles, in any order of their steps;
* `numberOf?`, `admissions`, `Releases`, `Inside` — who has entered, and who is inside;
* `Progress`, `progress_of_run` — how far one call has come;
* `Succession` — cycles one after the other;
* `Serial`, `Serial.step`, `Interleaved.serial` — what all steps have led to, kept by every step;
* `Handed` — what a cycle leaves to the next one;
* `ExclusionLaw`, `cycles_exclusive` — what holds at any time;
* `relayTrace`, `cycles_exclusive_relay` — a caller that is refused, and three cycles with different exits.
-/

namespace MapBallot.Swap

open Remote (Call Whitelist)
open Process (Path host movesOf)

variable {α : Type} [Scalar α]

/-! ## Callers -/

/-- Calls that start a cycle, each as far as it has come, in any order of their steps. Who starts one cycle
after another counts as several callers. -/
structure Interleaved (calls : Nat → Inquiry α) (T : List (Nat × Move State)) (x : State) : Prop where
  runs (a : Nat) : ∃ rest, (calls a).cycle.Run (movesOf a T) rest
  /-- At first no cycle was started, and nobody else replaces the state. -/
  chain : Chain id (T.map Prod.snd) {} x

/-- What was done up to some time. -/
theorem Interleaved.of_append {calls : Nat → Inquiry α} {T U : List (Nat × Move State)} {x : State}
    (h : Interleaved calls (T ++ U) x) :
    ∃ y, Interleaved calls T y ∧ Chain id (U.map Prod.snd) y x := by
  obtain ⟨runs, chain⟩ := h
  rw [List.map_append, chain_append_iff] at chain
  obtain ⟨y, earlier, later⟩ := chain
  refine ⟨y, ⟨fun a => ?_, earlier⟩, later⟩
  obtain ⟨_, run⟩ := runs a
  rw [Process.movesOf_append] at run
  exact run.of_append

/-- The number that a step hands out, if a cycle enters by it: the flag was down, and is up. -/
def numberOf? : Move State → Option Nat
  | .exchanged s s' => if !s.busy && s'.busy then some s'.started else none
  | _ => none

/-- The step lowers the flag. -/
def Releases : Move State → Prop
  | .exchanged s s' => s.busy = true ∧ s'.busy = false
  | _ => False

/-- Who has entered, in this order, with the number of the cycle. -/
def admissions (T : List (Nat × Move State)) : List (Nat × Nat) :=
  T.filterMap fun e => (numberOf? e.2).map (e.1, ·)

/-- A caller that took these steps has entered, and has not left. -/
def Inside (t : List (Move State)) : Prop :=
  (∃ m ∈ t, (numberOf? m).isSome) ∧ ∀ m ∈ t, ¬ Releases m

/-- The step leaves the flag as it is. -/
def Steady : Move State → Prop
  | .exchanged s s' => s'.busy = s.busy
  | _ => True

theorem Steady.numberOf?_eq {m : Move State} (h : Steady m) : numberOf? m = none := by
  rcases m with _ | _ | _ | ⟨s, s'⟩ <;> try rfl
  have same : s'.busy = s.busy := h
  refine if_neg ?_
  rw [same]
  cases s.busy <;> decide

theorem Steady.not_releases {m : Move State} (h : Steady m) : ¬ Releases m := by
  rcases m with _ | _ | _ | ⟨s, s'⟩ <;> try exact id
  rintro ⟨up, down⟩
  have same : s'.busy = s.busy := h
  rw [up, down] at same
  cases same

theorem numberOf?_entered {s : State} (idle : s.busy = false) :
    numberOf? (.exchanged s s.entered) = some (s.started + 1) := by
  rw [State.entered_idle idle]
  refine if_pos ?_
  rw [idle]
  rfl

theorem numberOf?_eq_some {s s' : State} {n : Nat} (h : numberOf? (.exchanged s s') = some n) :
    s.busy = false ∧ s'.busy = true ∧ s'.started = n := by
  obtain ⟨turned, number⟩ := Option.ite_none_right_eq_some.1 h
  obtain ⟨down, up⟩ := Bool.and_eq_true_iff.1 turned
  exact ⟨by simpa using down, up, Option.some.inj number⟩

theorem admissions_concat (T : List (Nat × Move State)) (a : Nat) (m : Move State) :
    admissions (T ++ [(a, m)]) = admissions T ++ ((numberOf? m).map (a, ·)).toList := by
  unfold admissions
  rw [List.filterMap_append]
  cases h : numberOf? m <;> simp [h]

/-- Steps of one that leave the flag as it is leave it as it was found. -/
theorem busy_of_chain {t : List (Move State)} {s x : State} (steady : ∀ m ∈ t, Steady m)
    (chain : Chain id t s x) : x.busy = s.busy := by
  induction t generalizing s with
  | nil => exact congrArg State.busy chain.symm
  | cons m t ih =>
    obtain ⟨first, later⟩ := List.forall_mem_cons.1 steady
    rcases m with _ | _ | _ | ⟨found, made⟩
    · exact ih later chain
    · exact ih later chain
    · exact ih later chain
    · obtain ⟨rfl, rest⟩ := chain
      exact (ih later rest).trans first

/-- Who has entered and left the flag as it was is inside. -/
theorem inside_of_steady {s : State} {u : List (Move State)} (idle : s.busy = false)
    (steady : ∀ m ∈ u, Steady m) : Inside (.exchanged s s.entered :: u) := by
  refine ⟨⟨_, .head _, by rw [numberOf?_entered idle]; rfl⟩, List.forall_mem_cons.2 ⟨?_, ?_⟩⟩
  · rintro ⟨busy, _⟩
    exact absurd (idle.symm.trans busy) (by decide)
  · exact fun m mem => (steady m mem).not_releases

/-- Who is inside is inside at every time between. -/
theorem Inside.between {t u v : List (Move State)} (entered : Inside t) (still : Inside v)
    (later : t ⊆ u) (earlier : u ⊆ v) : Inside u := by
  obtain ⟨⟨m, mem, number⟩, _⟩ := entered
  exact ⟨⟨m, later mem, number⟩, fun m mem => still.2 m (earlier mem)⟩

/-! ## One call -/

/-- How far a call has come. -/
inductive Progress (q : Inquiry α) :
    List (Move State) → Process State (Except Busy (Report α)) → Prop
  | outside : Progress q [] q.cycle
  | refused {s : State} (busy : s.busy = true) : Progress q [.exchanged s s] (.done (.error .busy))
  | inside {s : State} {u : List (Move State)} {rest : Process State (Except Busy (Report α))}
      (idle : s.busy = false) (steady : ∀ m ∈ u, Steady m) (unfinished : ∀ answer, rest ≠ .done answer) :
      Progress q (.exchanged s s.entered :: u) rest
  | left {s l : State} {u : List (Move State)} {report : Report α} (idle : s.busy = false)
      (steady : ∀ m ∈ u, Steady m) :
      Progress q (.exchanged s s.entered :: (u ++ [.exchanged l l.leave])) (.done (.ok report))

variable {q : Inquiry α} {t : List (Move State)} {rest : Process State (Except Busy (Report α))}

/-- A cycle does not touch the flag between entering and leaving. -/
theorem steady_of_beats {bs : List Beat} {kept seen : State} {kind : OutcomeKind}
    {baseline : Option Whitelist} : ∀ m ∈ bs.map Beat.move ++
      [.exchanged kept (kept.remember kind baseline), .exchanged seen seen], Steady m := by
  intro m mem
  rcases List.mem_append.1 mem with beat | last
  · obtain ⟨b, _, rfl⟩ := List.mem_map.1 beat
    cases b <;> trivial
  · rcases List.mem_cons.1 last with rfl | last
    · rfl
    · rw [List.mem_singleton.1 last]
      rfl

theorem progress_of_run (run : q.cycle.Run t rest) : Progress q t rest := by
  obtain ⟨u, answer, tail⟩ := rest.exists_path
  cases t with
  | nil =>
    generalize none : ([] : List (Move State)) = t at run
    cases run with
    | start => exact .outside
    | step => simp at none
  | cons m t =>
    rcases path_runExclusive_iff.1 (run.path_append tail) with
      ⟨s, busy, whole, rfl⟩ | ⟨s, bs, ending, kept, seen, l, idle, _, whole, rfl⟩
    · obtain ⟨rfl, nothing⟩ := List.cons.inj whole
      obtain ⟨rfl, rfl⟩ := List.append_eq_nil_iff.1 nothing
      cases tail
      have unchanged : (id s).entered = s := State.entered_busy busy
      rw [unchanged]
      exact .refused busy
    · obtain ⟨rfl, later⟩ := List.cons.inj whole
      have split : t ++ u = (bs.map Beat.move ++ [.exchanged kept
            (kept.remember ending.outcome.kind ending.baseline), .exchanged seen seen]) ++
          [.exchanged l l.leave] := by
        rw [List.append_assoc]
        exact later
      rcases List.eq_nil_or_concat u with rfl | ⟨u, last, rfl⟩
      · -- Nothing is left to do: the last step was leaving.
        rw [List.append_nil] at split
        cases tail
        rw [split]
        exact .left idle steady_of_beats
      · rw [List.concat_eq_append, ← List.append_assoc] at split
        have before := (List.append_inj' split rfl).1
        refine .inside idle (fun m mem => ?_) fun answer ended => ?_
        · exact steady_of_beats m (before ▸ List.mem_append_left u mem)
        · rw [ended, Process.path_done_iff] at tail
          simp at tail

/-- The first step of a call looks at the flag, and raises it. -/
theorem first_move {m : Move State} (run : q.cycle.Run [m] rest) :
    ∃ s, (s.busy = true ∧ m = .exchanged s s) ∨ (s.busy = false ∧ m = .exchanged s s.entered) := by
  generalize single : [m] = t at run
  cases progress_of_run run with
  | outside => cases single
  | @refused s busy => exact ⟨s, .inl ⟨busy, List.singleton_inj.1 single⟩⟩
  | @inside s u _ idle => exact ⟨s, .inr ⟨idle, (List.cons.inj single).1⟩⟩
  | left => simp at single

/-- A step of a caller inside leaves the flag as it is, or it is the last one. -/
theorem next_move {s : State} {u : List (Move State)} {m : Move State}
    (run : q.cycle.Run (.exchanged s s.entered :: u ++ [m]) rest) :
    Steady m ∨ ∃ l report, m = .exchanged l l.leave ∧ rest = .done (.ok report) := by
  generalize whole : .exchanged s s.entered :: u ++ [m] = t at run
  cases progress_of_run run with
  | outside => cases whole
  | refused => simp at whole
  | inside _ steady =>
    obtain ⟨_, rfl⟩ := List.cons.inj whole
    exact .inl (steady m (List.mem_append_right _ (.head _)))
  | @left _ l u' report =>
    obtain ⟨_, same⟩ := List.cons.inj whole
    exact .inr ⟨l, report, List.singleton_inj.1 (List.append_inj' same rfl).2, rfl⟩

/-- What a cycle leaves that nobody disturbs. -/
theorem alone_of_path {s x : State} {report : Report α} (path : q.cycle.Path t (.ok report))
    (alone : Chain id t s x) :
    s.busy = false ∧ report.cycle = s.started + 1 ∧ x.busy = false ∧ x.started = s.started + 1 ∧
      ∃ bs ending, Course q.input q.settings s.retained q.stream bs ending ∧
        report.outcome = ending.outcome ∧
        x.retained = State.retainedAfter s.retained ending.outcome.kind ending.baseline := by
  rcases path_runExclusive_iff.1 path with
    ⟨_, _, _, refused⟩ | ⟨y, bs, ending, kept, seen, left, idle, course, rfl, told⟩
  · cases refused
  · obtain ⟨found, steps⟩ := alone
    obtain rfl : s = y := found.symm
    obtain ⟨_, beats, last⟩ := chain_append_iff.1 steps
    obtain rfl := chain_beats.1 beats
    obtain ⟨rfl, rfl, rfl, rfl⟩ := last
    obtain rfl := Except.ok.inj told
    have entered : (id s).entered = { s with busy := true, started := s.started + 1 } :=
      State.entered_idle idle
    refine ⟨idle, rfl, rfl, ?_, bs, ending, course, rfl, ?_⟩
    · show (id s).entered.started = _
      rw [entered]
    · show State.retainedAfter (id s).entered.retained _ _ = _
      rw [entered]

/-- The first step of a cycle looks at the flag. -/
theorem path_cycle_ne_nil {answer : Except Busy (Report α)} (path : q.cycle.Path t answer) : t ≠ [] := by
  rintro rfl
  rcases path_runExclusive_iff.1 path with ⟨_, _, whole, _⟩ | ⟨_, _, _, _, _, _, _, _, whole, _⟩ <;>
    cases whole

/-- Who finds the flag up is told so. -/
theorem path_refused {s : State} (busy : s.busy = true) :
    q.cycle.Path [.exchanged s s] (.error .busy) := by
  refine path_runExclusive_iff.2 (.inl ⟨s, busy, ?_, rfl⟩)
  rw [show (id s).entered = s from State.entered_busy busy]

/-- A cycle that nobody disturbs lowers the flag in the end, whatever its outcome. -/
theorem releases_of_path {s x : State} {report : Report α} (path : q.cycle.Path t (.ok report))
    (alone : Chain id t s x) : ∃ m ∈ t, Releases m := by
  have progress := progress_of_run path.run
  generalize ended : Process.done (Except.ok report) = rest at progress
  cases progress with
  | outside => exact absurd rfl (path_cycle_ne_nil path)
  | refused => cases ended
  | inside _ _ unfinished => exact absurd ended.symm (unfinished _)
  | @left s' l u _ idle steady =>
    obtain ⟨_, later⟩ := alone
    obtain ⟨_, chain, rfl, _⟩ := chain_append_iff.1 later
    have entered : (id s'.entered).busy = true := by rw [id, State.entered_idle idle]
    exact ⟨_, .tail _ (List.mem_append_right _ (.head _)),
      (busy_of_chain steady chain).trans entered, rfl⟩

/-- Who has entered and left the flag as it was has not come to an answer. -/
theorem not_path_of_steady {s x : State} {u : List (Move State)} {answer : Except Busy (Report α)}
    (idle : s.busy = false) (steady : ∀ m ∈ u, Steady m) (chain : Chain id u s.entered x) :
    ¬ q.cycle.Path (.exchanged s s.entered :: u) answer := by
  intro path
  cases answer with
  | error e =>
    -- Only who is refused comes to an error, and who is refused found the flag up.
    rcases path_runExclusive_iff.1 path with ⟨s', busy, whole, _⟩ | ⟨_, _, _, _, _, _, _, _, _, told⟩
    · obtain ⟨same, _⟩ := List.cons.inj whole
      obtain ⟨rfl, _⟩ := Move.exchanged.inj same
      exact absurd (idle.symm.trans busy) (by decide)
    · cases told
  | ok report =>
    have alone : Chain id (.exchanged s s.entered :: u) s x := ⟨rfl, chain⟩
    obtain ⟨m, mem, releases⟩ := releases_of_path path alone
    exact (inside_of_steady idle steady).2 m mem releases

/-- Who is given an answer by the remote tool is inside. -/
theorem inside_of_answered {c : Call} {answer : c.Answer}
    (run : q.cycle.Run (t ++ [.answered c answer]) rest) : Inside (t ++ [.answered c answer]) := by
  generalize whole : t ++ [.answered c answer] = t' at run ⊢
  cases progress_of_run run with
  | outside => simp at whole
  | @refused s =>
    rw [← List.nil_append [Move.exchanged s s]] at whole
    have last := (List.append_inj' whole rfl).2
    simp at last
  | inside idle steady => exact inside_of_steady idle steady
  | left =>
    rw [← List.cons_append] at whole
    have last := (List.append_inj' whole rfl).2
    simp at last

/-! ## Cycles one after the other -/

variable {calls : Nat → Inquiry α} {T : List (Nat × Move State)} {x : State}

/-- Cycles one after the other, with their reports. Each finds the state that the one before left, and is
at its end before the next enters. -/
inductive Succession (calls : Nat → Inquiry α) (T : List (Nat × Move State)) :
    List (Nat × Report α) → State → Prop
  | start : Succession calls T [] {}
  | next {past : List (Nat × Report α)} {s x : State} {a : Nat} {report : Report α}
      (earlier : Succession calls T past s) (path : (calls a).cycle.Path (movesOf a T) (.ok report))
      (alone : Chain id (movesOf a T) s x) : Succession calls T (past ++ [(a, report)]) x

/-- Who ran these cycles, with their numbers. -/
def numbers (past : List (Nat × Report α)) : List (Nat × Nat) := past.map fun e => (e.1, e.2.cycle)

theorem Succession.idle {past : List (Nat × Report α)} (h : Succession calls T past x) :
    x.busy = false := by
  cases h with
  | start => rfl
  | next _ path alone => exact (alone_of_path path alone).2.2.1

theorem Succession.started {past : List (Nat × Report α)} (h : Succession calls T past x) :
    x.started = past.length := by
  induction h with
  | start => rfl
  | next _ path alone ih =>
    obtain ⟨_, _, _, started, _⟩ := alone_of_path path alone
    rw [started, ih, List.length_append, List.length_singleton]

/-- Cycles are numbered from one, without gaps. -/
theorem Succession.numbered {past : List (Nat × Report α)} (h : Succession calls T past x) :
    (numbers past).map Prod.snd = List.range' 1 past.length := by
  induction h with
  | start => rfl
  | next earlier path alone ih =>
    obtain ⟨_, cycle, _⟩ := alone_of_path path alone
    rw [numbers, List.map_append, List.map_append, ← numbers, ih, List.length_append,
      List.length_singleton, List.range'_concat, ← earlier.started]
    simp [cycle, Nat.add_comm]

/-- Each of the cycles came to its report. -/
theorem Succession.path {past : List (Nat × Report α)} (h : Succession calls T past x) {a : Nat}
    {report : Report α} (mem : (a, report) ∈ past) :
    (calls a).cycle.Path (movesOf a T) (.ok report) := by
  induction h with
  | start => cases mem
  | next _ path _ ih =>
    rcases List.mem_append.1 mem with earlier | latest
    · exact ih earlier
    · obtain ⟨rfl, rfl⟩ := Prod.mk.inj (List.mem_singleton.1 latest)
      exact path

/-- Each of the cycles lowered the flag. -/
theorem Succession.releases {past : List (Nat × Report α)} (h : Succession calls T past x) {a : Nat}
    {report : Report α} (mem : (a, report) ∈ past) : ∃ m ∈ movesOf a T, Releases m := by
  induction h with
  | start => cases mem
  | next _ path alone ih =>
    rcases List.mem_append.1 mem with earlier | latest
    · exact ih earlier
    · obtain ⟨rfl, rfl⟩ := Prod.mk.inj (List.mem_singleton.1 latest)
      exact releases_of_path path alone

/-- A caller that does something more is none of those whose cycles have ended. -/
theorem Succession.notMem {past : List (Nat × Report α)} (h : Succession calls T past x) {b : Nat}
    {m : Move State} {r : Process State (Except Busy (Report α))}
    (run : (calls b).cycle.Run (movesOf b T ++ [m]) r) (report : Report α) : (b, report) ∉ past := by
  intro mem
  have nothing := (h.path mem).ended run
  cases nothing

/-- Steps of others do not matter to cycles that have ended. -/
theorem Succession.concat {past : List (Nat × Report α)} (h : Succession calls T past x) {b : Nat}
    (other : ∀ report, (b, report) ∉ past) (m : Move State) :
    Succession calls (T ++ [(b, m)]) past x := by
  induction h with
  | start => exact .start
  | @next past s x a report _ path alone ih =>
    have apart : b ≠ a := by
      rintro rfl
      exact other report (List.mem_append_right _ (.head _))
    rw [← Process.movesOf_concat_of_ne apart T m] at path alone
    exact .next (ih fun report mem => other report (List.mem_append_left _ mem)) path alone

/-! ## All callers -/

/-- The caller has not tried yet, was refused, or has left. -/
inductive Aside (past : List (Nat × Report α)) (a : Nat) (t : List (Move State)) : Prop
  | outside (none : t = [])
  | refused {s : State} (busy : s.busy = true) (found : t = [.exchanged s s])
  | left {report : Report α} (ended : (a, report) ∈ past)

omit [Scalar α] in
theorem Aside.concat {past : List (Nat × Report α)} {a : Nat} (h : Aside past a t)
    (e : Nat × Report α) : Aside (past ++ [e]) a t := by
  cases h with
  | outside none => exact .outside none
  | refused busy found => exact .refused busy found
  | left ended => exact .left (List.mem_append_left _ ended)

/-- What the steps of all callers have led to: cycles one after the other, and perhaps one that is not at its
end. What that one finds is what it has made itself. -/
inductive Serial (calls : Nat → Inquiry α) (T : List (Nat × Move State)) (x : State) : Prop
  | vacant {past : List (Nat × Report α)} (succession : Succession calls T past x)
      (entered : admissions T = numbers past) (others : ∀ b, Aside past b (movesOf b T))
  | occupied {past : List (Nat × Report α)} {s : State} {a : Nat} {u : List (Move State)}
      (succession : Succession calls T past s)
      (entered : admissions T = numbers past ++ [(a, s.started + 1)])
      (others : ∀ b, b ≠ a → Aside past b (movesOf b T))
      (moves : movesOf a T = .exchanged s s.entered :: u) (steady : ∀ m ∈ u, Steady m)
      (chain : Chain id u s.entered x) : Serial calls T x

/-- Who stands aside and does something has done nothing before. -/
theorem Aside.eq_nil {past : List (Nat × Report α)} {b : Nat} {m : Move State}
    {r : Process State (Except Busy (Report α))} (h : Aside past b (movesOf b T))
    (other : ∀ report, (b, report) ∉ past) (run : (calls b).cycle.Run (movesOf b T ++ [m]) r) :
    movesOf b T = [] := by
  cases h with
  | outside none => exact none
  | @refused s busy found =>
    rw [found] at run
    -- Who was refused has come to its end.
    cases (path_refused busy).ended run
  | left ended => exact absurd ended (other _)

theorem Serial.busy {past : List (Nat × Report α)} {s : State} {u : List (Move State)}
    (succession : Succession calls T past s) (steady : ∀ m ∈ u, Steady m)
    (chain : Chain id u s.entered x) : x.busy = true := by
  rw [busy_of_chain steady chain, State.entered_idle succession.idle]

/-- A caller enters where nobody is inside. -/
theorem Serial.enter {past : List (Nat × Report α)} {b : Nat}
    (succession : Succession calls T past x) (entered : admissions T = numbers past)
    (others : ∀ c, Aside past c (movesOf c T)) (outside : movesOf b T = [])
    (other : ∀ report, (b, report) ∉ past) :
    Serial calls (T ++ [(b, .exchanged x x.entered)]) x.entered := by
  refine .occupied (a := b) (u := []) (succession.concat other _) ?_ (fun c apart => ?_) ?_ ?_ rfl
  · rw [admissions_concat, entered, numberOf?_entered succession.idle]
    rfl
  · rw [Process.movesOf_concat_of_ne (Ne.symm apart)]
    exact others c
  · rw [Process.movesOf_concat_self, outside]
    rfl
  · exact fun m mem => absurd mem List.not_mem_nil

/-- A caller is refused where another one is inside. -/
theorem Serial.refuse {past : List (Nat × Report α)} {s : State} {a b : Nat} {u : List (Move State)}
    (succession : Succession calls T past s)
    (entered : admissions T = numbers past ++ [(a, s.started + 1)])
    (others : ∀ c, c ≠ a → Aside past c (movesOf c T))
    (moves : movesOf a T = .exchanged s s.entered :: u) (steady : ∀ m ∈ u, Steady m)
    (chain : Chain id u s.entered x) (outside : movesOf b T = []) (apart : b ≠ a)
    (other : ∀ report, (b, report) ∉ past) : Serial calls (T ++ [(b, .exchanged x x)]) x := by
  have busy := Serial.busy succession steady chain
  have unchanged : Steady (.exchanged x x) := rfl
  refine .occupied (a := a) (succession.concat other _) ?_ (fun c hc => ?_) ?_ steady chain
  · rw [admissions_concat, entered, unchanged.numberOf?_eq]
    exact List.append_nil _
  · by_cases own : c = b
    · subst own
      rw [Process.movesOf_concat_self, outside]
      exact .refused busy rfl
    · rw [Process.movesOf_concat_of_ne (Ne.symm own)]
      exact others c hc
  · rw [Process.movesOf_concat_of_ne apart]
    exact moves

/-- The caller inside goes on. -/
theorem Serial.proceed {past : List (Nat × Report α)} {s y : State} {a : Nat} {u : List (Move State)}
    {m : Move State} (succession : Succession calls T past s)
    (entered : admissions T = numbers past ++ [(a, s.started + 1)])
    (others : ∀ c, c ≠ a → Aside past c (movesOf c T))
    (moves : movesOf a T = .exchanged s s.entered :: u) (steady : ∀ m ∈ u, Steady m)
    (chain : Chain id (u ++ [m]) s.entered y) (still : Steady m)
    (other : ∀ report, (a, report) ∉ past) : Serial calls (T ++ [(a, m)]) y := by
  refine .occupied (a := a) (u := u ++ [m]) (succession.concat other _) ?_ (fun c hc => ?_) ?_ ?_ chain
  · rw [admissions_concat, entered, still.numberOf?_eq]
    exact List.append_nil _
  · rw [Process.movesOf_concat_of_ne (Ne.symm hc)]
    exact others c hc
  · rw [Process.movesOf_concat_self, moves]
    rfl
  · exact List.forall_mem_append.2 ⟨steady, List.forall_mem_singleton.2 still⟩

/-- The caller inside leaves. -/
theorem Serial.leave {past : List (Nat × Report α)} {s y : State} {a : Nat} {u : List (Move State)}
    {m : Move State} {report : Report α} (succession : Succession calls T past s)
    (entered : admissions T = numbers past ++ [(a, s.started + 1)])
    (others : ∀ c, c ≠ a → Aside past c (movesOf c T))
    (moves : movesOf a T = .exchanged s s.entered :: u)
    (chain : Chain id (u ++ [m]) s.entered y) (last : numberOf? m = none)
    (path : (calls a).cycle.Path (movesOf a T ++ [m]) (.ok report))
    (other : ∀ report, (a, report) ∉ past) : Serial calls (T ++ [(a, m)]) y := by
  have own := Process.movesOf_concat_self a T m
  have alone : Chain id (movesOf a (T ++ [(a, m)])) s y := by
    rw [own, moves]
    exact ⟨rfl, chain⟩
  rw [← own] at path
  obtain ⟨_, cycle, _⟩ := alone_of_path path alone
  refine .vacant (.next (succession.concat other m) path alone) ?_ fun c => ?_
  · rw [admissions_concat, entered, last, numbers, numbers, List.map_append]
    simp [cycle]
  · by_cases inside : c = a
    · subst inside
      exact .left (List.mem_append_right _ (.head _))
    · rw [Process.movesOf_concat_of_ne (Ne.symm inside)]
      exact (others c inside).concat _

/-- **Each step of each caller keeps the order of the cycles.** -/
theorem Serial.step {y : State} {b : Nat} {m : Move State}
    {r : Process State (Except Busy (Report α))} (h : Serial calls T x)
    (run : (calls b).cycle.Run (movesOf b T ++ [m]) r) (made : Chain id [m] x y) :
    Serial calls (T ++ [(b, m)]) y := by
  cases h with
  | vacant succession entered others =>
    have other := succession.notMem run
    have outside := (others b).eq_nil other run
    rw [outside] at run
    obtain ⟨s, ⟨busy, rfl⟩ | ⟨_, rfl⟩⟩ := first_move run
    · obtain ⟨rfl, _⟩ := made
      exact absurd (succession.idle.symm.trans busy) (by decide)
    · obtain ⟨rfl, rfl⟩ := made
      exact .enter succession entered others outside other
  | @occupied past s a u succession entered others moves steady chain =>
    have other := succession.notMem run
    by_cases inside : b = a
    · subst inside
      have further : Chain id (u ++ [m]) s.entered y := chain_append_iff.2 ⟨x, chain, made⟩
      rw [moves] at run
      rcases next_move run with still | ⟨l, report, rfl, rfl⟩
      · exact .proceed succession entered others moves steady further still other
      · rw [← moves] at run
        exact .leave succession entered others moves further (if_neg (by simp [State.leave])) run.path other
    · have outside := (others b inside).eq_nil other run
      rw [outside] at run
      obtain ⟨s', ⟨_, rfl⟩ | ⟨idle, rfl⟩⟩ := first_move run
      · obtain ⟨rfl, rfl⟩ := made
        exact .refuse succession entered others moves steady chain outside inside other
      · obtain ⟨rfl, _⟩ := made
        exact absurd ((Serial.busy succession steady chain).symm.trans idle) (by decide)

/-- **The cycles of all callers are cycles one after the other.** -/
theorem Interleaved.serial (h : Interleaved calls T x) : Serial calls T x := by
  induction T using List.reverseRecOn generalizing x with
  | nil =>
    obtain rfl : ({} : State) = x := h.chain
    exact .vacant .start rfl fun _ => .outside rfl
  | append_singleton T e ih =>
    obtain ⟨b, m⟩ := e
    obtain ⟨y, earlier, made⟩ := h.of_append
    obtain ⟨r, run⟩ := h.runs b
    rw [Process.movesOf_concat_self] at run
    exact (ih earlier).step run made

/-! ### Who is inside -/

/-- A caller that stands aside is not inside. -/
theorem Succession.not_inside {past : List (Nat × Report α)} {s : State}
    (h : Succession calls T past s) {a : Nat} (aside : Aside past a (movesOf a T)) :
    ¬ Inside (movesOf a T) := by
  rintro ⟨⟨m, mem, number⟩, staying⟩
  cases aside with
  | outside none =>
    rw [none] at mem
    cases mem
  | refused _ found =>
    rw [found, List.mem_singleton] at mem
    have unchanged : Steady m := mem ▸ rfl
    rw [unchanged.numberOf?_eq] at number
    cases number
  | left ended =>
    obtain ⟨m, mem, releases⟩ := h.releases ended
    exact staying m mem releases

/-- A caller that stands aside and has a report ran one of the cycles. -/
theorem Succession.reported {past : List (Nat × Report α)} {s : State} (h : Succession calls T past s)
    {a : Nat} {report : Report α} (aside : Aside past a (movesOf a T))
    (path : (calls a).cycle.Path (movesOf a T) (.ok report)) :
    (a, report.cycle) ∈ numbers past := by
  cases aside with
  | outside none => exact absurd none (path_cycle_ne_nil path)
  | refused busy found =>
    rw [found] at path
    cases (path.unique (path_refused busy) (List.prefix_append _ []) (by simp)).2
  | left ended =>
    obtain rfl := Except.ok.inj
      (path.unique (h.path ended) (List.prefix_append _ []) (by simp)).2
    exact List.mem_map_of_mem (f := fun e => (e.1, e.2.cycle)) ended

theorem Serial.alone (h : Serial calls T x) {a b : Nat} (left : Inside (movesOf a T))
    (right : Inside (movesOf b T)) : a = b := by
  cases h with
  | vacant succession _ others => exact absurd left (succession.not_inside (others a))
  | @occupied past s c u succession _ others =>
    have only (a : Nat) (inside : Inside (movesOf a T)) : a = c := by
      by_contra apart
      exact succession.not_inside (others a apart) inside
    exact (only a left).trans (only b right).symm

theorem Serial.flag (h : Serial calls T x) : x.busy = true ↔ ∃ a, Inside (movesOf a T) := by
  cases h with
  | vacant succession _ others =>
    rw [succession.idle]
    refine ⟨fun up => absurd up (by decide), ?_⟩
    rintro ⟨a, inside⟩
    exact absurd inside (succession.not_inside (others a))
  | @occupied past s a u succession _ _ moves steady chain =>
    refine ⟨fun _ => ⟨a, ?_⟩, fun _ => Serial.busy succession steady chain⟩
    rw [moves]
    exact inside_of_steady succession.idle steady

theorem Serial.numbered (h : Serial calls T x) :
    (admissions T).map Prod.snd = List.range' 1 (admissions T).length := by
  cases h with
  | vacant succession entered =>
    rw [entered, succession.numbered, numbers, List.length_map]
  | @occupied past s a u succession entered =>
    rw [entered, List.map_append, succession.numbered, List.length_append, numbers, List.length_map,
      List.length_singleton, List.range'_concat, succession.started]
    simp [Nat.add_comm]

theorem Serial.reported (h : Serial calls T x) {a : Nat} {report : Report α}
    (path : (calls a).cycle.Path (movesOf a T) (.ok report)) : (a, report.cycle) ∈ admissions T := by
  cases h with
  | vacant succession entered others =>
    rw [entered]
    exact succession.reported (others a) path
  | @occupied past s b u succession entered others moves steady chain =>
    rw [entered]
    by_cases own : a = b
    · subst own
      rw [moves] at path
      exact absurd path (not_path_of_steady succession.idle steady chain)
    · exact List.mem_append_left _ (succession.reported (others a own) path)

/-- Who has come to an answer is not inside, whatever the answer is. -/
theorem Serial.finished (h : Serial calls T x) {a : Nat} {answer : Except Busy (Report α)}
    (path : (calls a).cycle.Path (movesOf a T) answer) : ¬ Inside (movesOf a T) := by
  cases h with
  | vacant succession _ others => exact succession.not_inside (others a)
  | @occupied past s b u succession _ others moves steady chain =>
    by_cases own : a = b
    · subst own
      rw [moves] at path
      exact absurd path (not_path_of_steady succession.idle steady chain)
    · exact succession.not_inside (others a own)

/-- Who has not begun is not inside. -/
theorem not_inside_nil : ¬ Inside [] := fun inside => by
  obtain ⟨m, mem, _⟩ := inside.1
  cases mem

/-- The flag is down where everybody has come to an answer or has not begun. -/
theorem Serial.clear (h : Serial calls T x)
    (finished : ∀ a, movesOf a T = [] ∨ ∃ answer, (calls a).cycle.Path (movesOf a T) answer) :
    x.busy = false := by
  refine Bool.eq_false_iff.2 fun up => ?_
  obtain ⟨a, inside⟩ := h.flag.1 up
  rcases finished a with none | ⟨answer, path⟩
  · rw [none] at inside
    exact not_inside_nil inside
  · exact h.finished path inside

/-! ## What holds at any time -/

/-- What a cycle left to the next one: it came to its report, and what it retained is what its course left
of what it found. -/
inductive Handed (q : Inquiry α) (t : List (Move State)) (number : Nat) (left : State) : Prop
  | intro {s : State} {report : Report α} {bs : List Beat} {ending : Ending α}
      (ended : q.cycle.Path t (.ok report)) (numbered : report.cycle = number)
      (alone : Chain id t s left) (course : Course q.input q.settings s.retained q.stream bs ending)
      (told : report.outcome = ending.outcome)
      (retained : left.retained =
        State.retainedAfter s.retained ending.outcome.kind ending.baseline)

/-- What holds of the steps of all callers at any time. -/
structure ExclusionLaw (calls : Nat → Inquiry α) (T : List (Nat × Move State)) (x : State) : Prop where
  /-- At most one caller is inside. -/
  alone (a b : Nat) : Inside (movesOf a T) → Inside (movesOf b T) → a = b
  /-- The flag is up while a caller is inside, and only then. -/
  flag : x.busy = true ↔ ∃ a, Inside (movesOf a T)
  /-- Who has come to an answer has left, whatever the answer and the outcome are. -/
  finished {a : Nat} {answer : Except Busy (Report α)} :
    (calls a).cycle.Path (movesOf a T) answer → ¬ Inside (movesOf a T)
  /-- So the flag is down where everybody has come to an answer or has not begun. -/
  clear : (∀ a, movesOf a T = [] ∨ ∃ answer, (calls a).cycle.Path (movesOf a T) answer) →
    x.busy = false
  /-- Between two calls of a cycle nobody else calls the remote tool. -/
  untangled {a b : Nat} {c c' d : Call} {first : c.Answer} {last : c'.Answer} {other : d.Answer}
    {before between between' after : List (Nat × Move State)} :
    T = before ++ (a, .answered c first) :: (between ++ (b, .answered d other) ::
      (between' ++ (a, .answered c' last) :: after)) → b = a
  /-- Who finds the flag up does nothing else, whatever the random words are, and is told that a cycle
  is in progress. -/
  refused {a : Nat} {s s' : State} {t : List (Move State)} :
    movesOf a T = .exchanged s s' :: t → s.busy = true → t = [] ∧ s' = s ∧
      ∀ stream, Inquiry.cycle { calls a with stream } |>.Path (movesOf a T) (.error .busy)
  /-- Cycles are numbered from one in the order in which they enter, without gaps. -/
  numbered : (admissions T).map Prod.snd = List.range' 1 (admissions T).length
  /-- A report tells the number that was handed out. -/
  reported {a : Nat} {report : Report α} :
    (calls a).cycle.Path (movesOf a T) (.ok report) → (a, report.cycle) ∈ admissions T
  /-- A cycle that enters finds nothing retained if it is the first one, and else what the one before it
  has left. -/
  inherited {before after : List (Nat × Move State)} {b n : Nat} {s s' : State} :
    T = before ++ (b, .exchanged s s') :: after → numberOf? (.exchanged s s') = some n →
      (admissions before = [] ∧ s.retained = none) ∨
      ∃ earlier a k, admissions before = earlier ++ [(a, k)] ∧
        Handed (calls a) (movesOf a before) k s

/-- Who is given an answer by the remote tool is inside at that time. -/
theorem Interleaved.inside_of_answered {a : Nat} {c : Call} {answer : c.Answer}
    {before after : List (Nat × Move State)}
    (h : Interleaved calls (before ++ (a, .answered c answer) :: after) x) :
    ∃ y, Interleaved calls (before ++ [(a, .answered c answer)]) y ∧
      Inside (movesOf a (before ++ [(a, .answered c answer)])) := by
  rw [List.append_cons] at h
  obtain ⟨y, earlier, _⟩ := h.of_append
  obtain ⟨_, run⟩ := earlier.runs a
  refine ⟨y, earlier, ?_⟩
  rw [Process.movesOf_concat_self] at run ⊢
  exact Swap.inside_of_answered run

theorem Interleaved.untangled (h : Interleaved calls T x) {a b : Nat} {c c' d : Call}
    {first : c.Answer} {last : c'.Answer} {other : d.Answer}
    {before between between' after : List (Nat × Move State)}
    (whole : T = before ++ (a, .answered c first) :: (between ++ (b, .answered d other) ::
      (between' ++ (a, .answered c' last) :: after))) : b = a := by
  subst whole
  obtain ⟨_, _, entered⟩ := h.inside_of_answered
  have atOther : Interleaved calls ((before ++ (a, .answered c first) :: between) ++
      (b, .answered d other) :: (between' ++ (a, .answered c' last) :: after)) x := by simpa using h
  have atLast : Interleaved calls ((before ++ (a, .answered c first) ::
      (between ++ (b, .answered d other) :: between')) ++ (a, .answered c' last) :: after) x := by
    simpa using h
  obtain ⟨_, meanwhile, within⟩ := atOther.inside_of_answered
  obtain ⟨_, _, still⟩ := atLast.inside_of_answered
  refine meanwhile.serial.alone within (entered.between still ?_ ?_) <;>
    exact Process.movesOf_subset fun e mem => by grind

theorem Interleaved.refused (h : Interleaved calls T x) {a : Nat} {s s' : State}
    {t : List (Move State)} (moves : movesOf a T = .exchanged s s' :: t) (busy : s.busy = true) :
    t = [] ∧ s' = s ∧
      ∀ stream, Inquiry.cycle { calls a with stream } |>.Path (movesOf a T) (.error .busy) := by
  obtain ⟨rest, run⟩ := h.runs a
  generalize movesOf a T = made at run moves
  cases progress_of_run run with
  | outside => cases moves
  | refused =>
    obtain ⟨same, rfl⟩ := List.cons.inj moves
    obtain ⟨rfl, rfl⟩ := Move.exchanged.inj same
    exact ⟨rfl, rfl, fun _ => path_refused busy⟩
  | inside idle | left idle =>
    obtain ⟨same, _⟩ := List.cons.inj moves
    obtain ⟨rfl, _⟩ := Move.exchanged.inj same
    exact absurd (idle.symm.trans busy) (by decide)

theorem Interleaved.inherited (h : Interleaved calls T x) {before after : List (Nat × Move State)}
    {b n : Nat} {s s' : State} (whole : T = before ++ (b, .exchanged s s') :: after)
    (entering : numberOf? (.exchanged s s') = some n) :
    (admissions before = [] ∧ s.retained = none) ∨
      ∃ earlier a k, admissions before = earlier ++ [(a, k)] ∧
        Handed (calls a) (movesOf a before) k s := by
  subst whole
  obtain ⟨y, earlier, found, _⟩ := h.of_append
  obtain rfl : s = y := found
  obtain ⟨idle, _⟩ := numberOf?_eq_some entering
  cases earlier.serial with
  | vacant succession entered =>
    rw [entered]
    cases succession with
    | start => exact .inl ⟨rfl, rfl⟩
    | @next past s _ a report _ path alone =>
      obtain ⟨_, _, _, _, bs, ending, course, told, retained⟩ := alone_of_path path alone
      exact .inr ⟨numbers past, a, report.cycle, List.map_append,
        .intro path rfl alone course told retained⟩
  | occupied succession _ _ _ steady chain =>
    exact absurd (idle.symm.trans (Serial.busy succession steady chain)) (by decide)

/-- **Cycles exclude each other**, in whatever order the steps of the callers are made. -/
theorem cycles_exclusive (h : Interleaved calls T x) : ExclusionLaw calls T x where
  alone _ _ := h.serial.alone
  flag := h.serial.flag
  finished := h.serial.finished
  clear := h.serial.clear
  untangled := h.untangled
  refused := h.refused
  numbered := h.serial.numbered
  reported := h.serial.reported
  inherited := h.inherited

/-! ### A refused caller, and two that inherit a whitelist -/

/-- The state once the first cycle could not restore the whitelist. -/
def pairUnrestored : State := { pairState with retained := some ⟨pairIds⟩ }

/-- The state that the first cycle leaves. -/
def pairNarrowed : State := { started := 1, retained := some ⟨pairIds⟩ }

/-- The state while the second cycle is in progress. -/
def pairSecond : State := { busy := true, started := 2, retained := some ⟨pairIds⟩ }

/-- The state while the third cycle is in progress. -/
def pairThird : State := { pairSecond with started := 3 }

/-- The state once the third cycle has restored the whitelist. -/
def pairRestored : State := { pairThird with retained := none }

/-- The last steps of a cycle that fails to restore. -/
def pairFailing : List Beat :=
  [.settle false, .call .reset .reset (.ok ()), .settle false,
    .call .restore (.setWhitelist pairIds) (.error .interrupted)]

/-- The first steps of a cycle that knows the whitelist to restore. -/
def pairResuming : List Beat :=
  [.call .catalog .catalog (.ok [soleLayer, hill400Layer]), .poll false,
    .call .apply (.setWhitelist [soleLayer.id]) (.ok ())]

/-- A caller applies its selection, another one is refused, the first one fails to restore the whitelist,
a third one starts a cycle that is told no catalog, and a fourth one restores the whitelist. -/
def relayTrace : List (Nat × Move State) :=
  (Move.exchanged {} pairState :: pairApplying.map Beat.move).map (0, ·) ++
    [(1, .exchanged pairState pairState)] ++
    (pairFailing.map Beat.move ++ [Move.exchanged pairState pairUnrestored,
      .exchanged pairUnrestored pairUnrestored, .exchanged pairUnrestored pairNarrowed]).map (0, ·) ++
    [Move.exchanged pairNarrowed pairSecond, .answered .catalog (.error .interrupted),
      .exchanged pairSecond pairSecond, .exchanged pairSecond pairSecond,
      .exchanged pairSecond { pairNarrowed with started := 2 }].map (2, ·) ++
    (Move.exchanged { pairNarrowed with started := 2 } pairThird ::
      ((pairResuming ++ pairRestoring).map Beat.move ++ [.exchanged pairThird pairRestored,
        .exchanged pairRestored pairRestored, .exchanged pairRestored { started := 3 }])).map (3, ·)

/-- The first cycle cannot restore the whitelist. -/
theorem relay_first : ∃ report, pairLow.cycle.Path (movesOf 0 relayTrace) (.ok report) := by
  obtain ⟨left, preparation⟩ := (offered_pair _ _).preparation_ok (eq_ok_of_toOption drawn_low)
  have course : Course pairLow.input pairLow.settings none pairLow.stream
      (pairApplying ++ pairFailing)
      ⟨.restoreFailedAfterSuccess ⟨[⟨soleLayer, 8000⟩]⟩ .interrupted, some ⟨pairIds⟩, left⟩ :=
    .swapped preparation (.read ⟨pairIds⟩) (.applied (.finished false)) (.error .interrupted)
  exact ⟨_, path_runExclusive_iff.2
    (.inr ⟨{}, _, _, pairState, pairUnrestored, pairUnrestored, rfl, course, rfl, rfl⟩)⟩

/-- The second cycle finds the whitelist to restore, and no catalog. -/
theorem relay_second : ∃ report, pairLow.cycle.Path (movesOf 2 relayTrace) (.ok report) := by
  have course : Course pairLow.input pairLow.settings (some ⟨pairIds⟩) pairLow.stream
      [.call .catalog .catalog (.error .interrupted)]
      ⟨.selectionFailed (.catalog .interrupted), none, pairLow.stream⟩ :=
    .unprepared (.catalogFailed .interrupted)
  exact ⟨_, path_runExclusive_iff.2
    (.inr ⟨pairNarrowed, _, _, pairSecond, pairSecond, pairSecond, rfl, course, rfl, rfl⟩)⟩

/-- The third cycle finds the whitelist to restore, and restores it. -/
theorem relay_third :
    pairLow.cycle.Path (movesOf 3 relayTrace)
      (.ok ⟨3, none, 1, .succeeded ⟨[⟨soleLayer, 8000⟩]⟩, .baseline⟩) := by
  have offered : Offered pairLow.settings (some ⟨pairIds⟩)
      [.call .catalog .catalog (.ok [soleLayer, hill400Layer])] (pairOffer pairIds) :=
    .told (by decide) (.own rfl) (.kept ⟨pairIds⟩)
  obtain ⟨left, preparation⟩ := offered.preparation_ok (eq_ok_of_toOption drawn_low)
  have course : Course pairLow.input pairLow.settings (some ⟨pairIds⟩) pairLow.stream
      (pairResuming ++ pairRestoring) ⟨.succeeded ⟨[⟨soleLayer, 8000⟩]⟩, some ⟨pairIds⟩, left⟩ :=
    .swapped preparation (.kept ⟨pairIds⟩) (.applied (.finished false)) (.ok ())
  exact path_runExclusive_iff.2 (.inr ⟨{ pairNarrowed with started := 2 }, _, _, pairThird,
    pairRestored, pairRestored, rfl, course, rfl, rfl⟩)

theorem interleaved_relay : Interleaved (fun _ => pairLow) relayTrace { started := 3 } where
  runs
    | 0 => ⟨_, relay_first.choose_spec.run⟩
    | 1 => ⟨_, (path_refused (s := pairState) rfl).run⟩
    | 2 => ⟨_, relay_second.choose_spec.run⟩
    | 3 => ⟨_, relay_third.run⟩
    | _ + 4 => ⟨_, .start⟩
  chain := by
    simp [relayTrace, pairApplying, pairReads, pairFailing, pairResuming, pairRestoring, Beat.move,
      Chain]

/-- Three cycles are numbered, and the caller in between is not. The last one succeeds, and has left. -/
theorem cycles_exclusive_relay :
    admissions relayTrace = [(0, 1), (2, 2), (3, 3)] ∧
      (∃ report : Report Rat, pairLow.cycle.Path (movesOf 3 relayTrace) (.ok report) ∧
        report.outcome.kind = .succeeded ∧ report.cycle = 3) ∧
      ¬ Inside (movesOf 3 relayTrace) ∧
      ExclusionLaw (fun _ => pairLow) relayTrace { started := 3 } :=
  have law := cycles_exclusive interleaved_relay
  ⟨rfl, ⟨_, relay_third, rfl, rfl⟩, law.finished (a := 3) relay_third, law⟩

end MapBallot.Swap
