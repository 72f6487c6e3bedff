import MapBallot.Proofs.Process

/-!
# `MapBallot.Proofs.Swap.Course` — what a cycle does, call by call

A cycle makes up to seven calls, each for a purpose of its own, and asks three times whether a
shutdown was asked for. What it does next depends on what it was told so far. The tables below list
every course that a cycle can take, with what comes of it.

## Contents

* `Purpose`, `Beat` — what a call is made for, and one step of a cycle with what it was told;
* `Preparation`, `Forward`, `Course` — the courses of the three parts and of the whole cycle;
* `path_prepare_iff`, `path_swap_iff`, `path_run_iff` — the programs take exactly these courses;
* `path_runExclusive_iff`, `path_preview_iff` — so do a cycle that excludes others, and a preview.
-/

namespace MapBallot.Swap

open Remote (Call CallError Host Program Whitelist)
open Process (Path host)

variable {α σ : Type}

/-! ## Steps of a cycle -/

/-- What a cycle makes a call for, in the order in which cycles make their calls. -/
inductive Purpose
  /-- The layers to select from. -/
  | catalog
  /-- The plan and the rules to select by. -/
  | guidance
  /-- The whitelist that bounds the selection. -/
  | bound
  /-- The whitelist to restore. -/
  | snapshot
  /-- The selection is put on the whitelist. -/
  | apply
  /-- The vote is drawn up anew. -/
  | reset
  /-- The whitelist is put back. -/
  | restore
  deriving DecidableEq, Repr

/-- The purposes of reading. -/
def Purpose.reads : List Purpose := [catalog, guidance, bound, snapshot]

/-- All purposes, in the order in which cycles make their calls. -/
def Purpose.all : List Purpose := reads ++ [apply, reset, restore]

/-- One step of a cycle, with what it was told. -/
inductive Beat
  | call (purpose : Purpose) (c : Call) (answer : c.Answer)
  | poll (raised : Bool)
  | settle (raised : Bool)

/-- A step of a cycle as a step of an operation. -/
def Beat.move : Beat → Move σ
  | call _ c answer => .answered c answer
  | poll raised => .polled raised
  | settle raised => .settled raised

/-- Calls, and looks for a shutdown, leave a shared value alone. -/
theorem chain_beats {τ : Type} {f : σ → τ} {bs : List Beat} {x y : τ} :
    Chain f (bs.map Beat.move) x y ↔ x = y := by
  induction bs with
  | nil => rfl
  | cons b bs ih => cases b <;> exact ih

/-! ## The courses -/

/-- Where the plan and the policy come from. -/
inductive Guided (settings : Settings) : List Beat → Plan → Policy → Prop
  | own (off : settings.useRemoteSettings = false) :
      Guided settings [] settings.plan settings.policy
  | remote (on : settings.useRemoteSettings = true) (s : Remote.Settings) :
      Guided settings [.call .guidance .settings (.ok s)] s.plan
        { settings.policy with exclusions := .ofSettings s }

/-- Where a whitelist comes from: the retained one is known, else it is read. -/
inductive Anchored (purpose : Purpose) : Option Whitelist → List Beat → Whitelist → Prop
  | kept (w : Whitelist) : Anchored purpose (some w) [] w
  | read (w : Whitelist) : Anchored purpose none [.call purpose .getWhitelist (.ok w)] w

section

variable [Scalar α]

/-- What is chosen of the layers that a whitelist lists, and the random words that are left. -/
def choice (input : Input α) (catalog : List Layer) (w : Whitelist) (plan : Plan) (policy : Policy)
    (stream : RandomStream) : Except PrepareError (Selection α) × RandomStream :=
  let (result, stream) :=
    selectPlan input.parameters input.history (withinWhitelist catalog w) plan policy stream
  (result.mapError .choice, stream)

/-- The courses of selecting from a catalog. -/
inductive Drawing (input : Input α) (settings : Settings) (retained : Option Whitelist)
    (catalog : List Layer) (stream : RandomStream) :
    List Beat → Except PrepareError (Selection α) × RandomStream → Prop
  | guidanceFailed (on : settings.useRemoteSettings = true) (e : CallError) :
      Drawing input settings retained catalog stream [.call .guidance .settings (.error e)]
        (.error (.settings e), stream)
  | boundFailed {gs : List Beat} {plan : Plan} {policy : Policy}
      (guided : Guided settings gs plan policy) (fresh : retained = none) (e : CallError) :
      Drawing input settings retained catalog stream
        (gs ++ [.call .bound .getWhitelist (.error e)]) (.error (.whitelist e), stream)
  | chosen {gs ws : List Beat} {plan : Plan} {policy : Policy} {w : Whitelist}
      (guided : Guided settings gs plan policy) (bounded : Anchored .bound retained ws w) :
      Drawing input settings retained catalog stream (gs ++ ws)
        (choice input catalog w plan policy stream)

/-- The courses of reading a catalog and selecting from it. -/
inductive Preparation (input : Input α) (settings : Settings) (retained : Option Whitelist)
    (stream : RandomStream) :
    List Beat → Except PrepareError (Selection α) × RandomStream → Prop
  | catalogFailed (e : CallError) :
      Preparation input settings retained stream [.call .catalog .catalog (.error e)]
        (.error (.catalog e), stream)
  | catalogEmpty :
      Preparation input settings retained stream [.call .catalog .catalog (.ok [])]
        (.error (.choice .emptyCatalog), stream)
  | catalogListed {catalog : List Layer} {bs : List Beat}
      {r : Except PrepareError (Selection α) × RandomStream} (listed : catalog ≠ [])
      (drawing : Drawing input settings retained catalog stream bs r) :
      Preparation input settings retained stream (.call .catalog .catalog (.ok catalog) :: bs) r

end

/-- The courses of resetting the vote, with the phase and the reason of a failure. -/
inductive Resetting : List Beat → Except (Phase × CallError) Unit → Prop
  | cut : Resetting [.settle true] (.error (.resetting, .interrupted))
  | refused (e : CallError) :
      Resetting [.settle false, .call .reset .reset (.error e)] (.error (.resetting, e))
  | finished (raised : Bool) :
      Resetting [.settle false, .call .reset .reset (.ok ()), .settle raised] (.ok ())

/-- The courses of applying a selection and resetting the vote. -/
inductive Forward (selection : Selection α) : List Beat → Except (Phase × CallError) Unit → Prop
  | stopped : Forward selection [.poll true] (.error (.applying, .interrupted))
  | refused (e : CallError) :
      Forward selection [.poll false, .call .apply (.setWhitelist selection.layerIds) (.error e)]
        (.error (.applying, e))
  | applied {bs : List Beat} {r : Except (Phase × CallError) Unit} (resetting : Resetting bs r) :
      Forward selection
        (.poll false :: .call .apply (.setWhitelist selection.layerIds) (.ok ()) :: bs) r

/-- The outcome after the snapshot: what the steps forward came to, and what restoring came to. -/
def Outcome.ofRestore (selection : Selection α) :
    Except (Phase × CallError) Unit → Except CallError Unit → Outcome α
  | .ok (), .ok () => .succeeded selection
  | .ok (), .error r => .restoreFailedAfterSuccess selection r
  | .error (phase, e), .ok () => .applyFailed phase e
  | .error (phase, e), .error r => .applyFailedUnrecovered phase e r

section

variable [Scalar α]

/-- The courses of a cycle. -/
inductive Course (input : Input α) (settings : Settings) (retained : Option Whitelist)
    (stream : RandomStream) : List Beat → Ending α → Prop
  | unprepared {reads : List Beat} {e : PrepareError} {rest : RandomStream}
      (preparation : Preparation input settings retained stream reads (.error e, rest)) :
      Course input settings retained stream reads ⟨.selectionFailed e, none, rest⟩
  | unanchored {reads : List Beat} {selection : Selection α} {rest : RandomStream}
      (preparation : Preparation input settings retained stream reads (.ok selection, rest))
      (fresh : retained = none) (e : CallError) :
      Course input settings retained stream (reads ++ [.call .snapshot .getWhitelist (.error e)])
        ⟨.snapshotFailed e, none, rest⟩
  | swapped {reads snap steps : List Beat} {selection : Selection α} {rest : RandomStream}
      {w : Whitelist} {result : Except (Phase × CallError) Unit}
      (preparation : Preparation input settings retained stream reads (.ok selection, rest))
      (anchored : Anchored .snapshot retained snap w) (forward : Forward selection steps result)
      (answer : Except CallError Unit) :
      Course input settings retained stream
        (reads ++ snap ++ steps ++ [.call .restore (.setWhitelist w.layerIds) answer])
        ⟨.ofRestore selection result answer, some w, rest⟩

end

/-! ## The programs take exactly these courses -/

variable {t : List (Move σ)}

theorem path_guidelines_iff {settings : Settings} {r : Except CallError (Plan × Policy)} :
    Path ((guidelines settings).runOn host) t r ↔
      (∃ gs plan policy, t = gs.map Beat.move ∧ r = .ok (plan, policy) ∧
        Guided settings gs plan policy) ∨
      (∃ e, t = [.answered .settings (.error e)] ∧ r = .error e ∧
        settings.useRemoteSettings = true) := by
  unfold guidelines
  by_cases on : settings.useRemoteSettings = true
  · rw [if_pos on]
    show Path (Process.call .settings _) t r ↔ _
    rw [Process.path_call_iff]
    constructor
    · rintro ⟨answer, t', rfl, h⟩
      cases answer with
      | error e =>
        obtain ⟨rfl, rfl⟩ := Process.path_pure_iff.1 h
        exact .inr ⟨e, rfl, rfl, on⟩
      | ok s =>
        obtain ⟨rfl, rfl⟩ := Process.path_pure_iff.1 h
        exact .inl ⟨_, _, _, rfl, rfl, .remote on s⟩
    · rintro (⟨_, _, _, rfl, rfl, guided⟩ | ⟨e, rfl, rfl, _⟩)
      · cases guided with
        | own off => rw [on] at off; cases off
        | remote _ s => exact ⟨.ok s, [], rfl, Process.path_pure_iff.2 ⟨rfl, rfl⟩⟩
      · exact ⟨.error e, [], rfl, Process.path_pure_iff.2 ⟨rfl, rfl⟩⟩
  · rw [if_neg on, Program.runOn_pure, Process.path_pure_iff]
    constructor
    · rintro ⟨rfl, rfl⟩
      exact .inl ⟨[], _, _, rfl, rfl, .own (by simpa using on)⟩
    · rintro (⟨_, _, _, rfl, rfl, guided⟩ | ⟨_, _, _, on'⟩)
      · cases guided with
        | own => exact ⟨rfl, rfl⟩
        | remote on' => exact absurd on' on
      · exact absurd on' on

theorem path_baseline_iff (purpose : Purpose) {retained : Option Whitelist}
    {r : Except CallError Whitelist} :
    Path ((baseline retained).runOn host) t r ↔
      (∃ ws w, t = ws.map Beat.move ∧ r = .ok w ∧ Anchored purpose retained ws w) ∨
      (∃ e, t = [.answered .getWhitelist (.error e)] ∧ r = .error e ∧ retained = none) := by
  cases retained with
  | some w =>
    show Path (pure (.ok w)) t r ↔ _
    rw [Process.path_pure_iff]
    constructor
    · rintro ⟨rfl, rfl⟩
      exact .inl ⟨[], w, rfl, rfl, .kept w⟩
    · rintro (⟨_, _, rfl, rfl, ⟨⟩⟩ | ⟨_, _, _, ⟨⟩⟩)
      exact ⟨rfl, rfl⟩
  | none =>
    show Path ((Program.request .getWhitelist).runOn host) t r ↔ _
    rw [Process.path_request_iff]
    constructor
    · rintro rfl
      cases r with
      | ok w => exact .inl ⟨_, w, rfl, rfl, .read w⟩
      | error e => exact .inr ⟨e, rfl, rfl, rfl⟩
    · rintro (⟨_, _, rfl, rfl, ⟨⟩⟩ | ⟨_, rfl, rfl, _⟩) <;> rfl

section

variable [Scalar α] {input : Input α} {settings : Settings} {retained : Option Whitelist}
  {stream : RandomStream}

theorem path_choose_iff {catalog : List Layer} {w : Whitelist} {plan : Plan} {policy : Policy}
    {r : Except PrepareError (Selection α) × RandomStream} :
    Path ((choose input catalog w plan policy stream).runOn host) t r ↔
      t = [] ∧ r = choice input catalog w plan policy stream := by
  unfold choose choice
  rw [Program.runOn_bind, Process.runOn_write, pure_bind]
  generalize selectPlan input.parameters input.history (withinWhitelist catalog w) plan policy
    stream = drawn
  obtain ⟨_ | _, rest⟩ := drawn <;> exact Process.path_pure_iff

theorem path_selectFrom_iff {catalog : List Layer}
    {r : Except PrepareError (Selection α) × RandomStream} :
    Path ((selectFrom input settings retained catalog stream).runOn host) t r ↔
      ∃ bs, t = bs.map Beat.move ∧ Drawing input settings retained catalog stream bs r := by
  unfold selectFrom
  rw [Program.runOn_bind]
  constructor
  · intro path
    obtain ⟨_, t, _, rfl, hg, h⟩ := Process.path_bind_iff.1 path
    rcases path_guidelines_iff.1 hg with ⟨gs, plan, policy, rfl, rfl, guided⟩ | ⟨e, rfl, rfl, on⟩
    · dsimp only at h
      rw [Program.runOn_bind] at h
      obtain ⟨_, t, _, rfl, hb, hd⟩ := Process.path_bind_iff.1 h
      rcases (path_baseline_iff .bound).1 hb with
        ⟨ws, w, rfl, rfl, bounded⟩ | ⟨e, rfl, rfl, fresh⟩
      · obtain ⟨rfl, rfl⟩ := path_choose_iff.1 hd
        exact ⟨_, by simp, .chosen guided bounded⟩
      · obtain ⟨rfl, rfl⟩ := Process.path_pure_iff.1 hd
        exact ⟨_, by simp [Beat.move], .boundFailed guided fresh e⟩
    · obtain ⟨rfl, rfl⟩ := Process.path_pure_iff.1 h
      exact ⟨_, rfl, .guidanceFailed on e⟩
  · rintro ⟨bs, rfl, drawing⟩
    cases drawing with
    | guidanceFailed on e =>
      exact .bind (path_guidelines_iff.2 (.inr ⟨e, rfl, rfl, on⟩))
        (Process.path_pure_iff.2 ⟨rfl, rfl⟩)
    | boundFailed guided fresh e =>
      rw [List.map_append]
      refine .bind (path_guidelines_iff.2 (.inl ⟨_, _, _, rfl, rfl, guided⟩)) ?_
      dsimp only
      rw [Program.runOn_bind]
      exact .bind ((path_baseline_iff .bound).2 (.inr ⟨e, rfl, rfl, fresh⟩))
        (Process.path_pure_iff.2 ⟨rfl, rfl⟩)
    | @chosen gs ws _ _ w guided bounded =>
      rw [List.map_append]
      refine .bind (path_guidelines_iff.2 (.inl ⟨_, _, _, rfl, rfl, guided⟩)) ?_
      dsimp only
      rw [Program.runOn_bind, ← List.append_nil (ws.map Beat.move)]
      exact .bind ((path_baseline_iff .bound).2 (.inl ⟨_, _, rfl, rfl, bounded⟩))
        (path_choose_iff.2 ⟨rfl, rfl⟩)

/-- **Reading and selecting takes exactly the courses of `Preparation`.** -/
theorem path_prepare_iff {r : Except PrepareError (Selection α) × RandomStream} :
    Path ((prepare input settings retained stream).runOn host) t r ↔
      ∃ bs, t = bs.map Beat.move ∧ Preparation input settings retained stream bs r := by
  unfold prepare
  rw [Program.runOn_bind]
  constructor
  · intro path
    obtain ⟨_, t, answer, rfl, hc, h⟩ := Process.path_bind_iff.1 path
    obtain rfl := Process.path_request_iff.1 hc
    cases answer with
    | error e =>
      obtain ⟨rfl, rfl⟩ := Process.path_pure_iff.1 h
      exact ⟨_, rfl, .catalogFailed e⟩
    | ok catalog =>
      by_cases listed : catalog = []
      · subst listed
        obtain ⟨rfl, rfl⟩ := Process.path_pure_iff.1 h
        exact ⟨_, rfl, .catalogEmpty⟩
      · dsimp only at h
        rw [if_neg (by simpa using listed)] at h
        obtain ⟨bs, rfl, drawing⟩ := path_selectFrom_iff.1 h
        exact ⟨_, rfl, .catalogListed listed drawing⟩
  · rintro ⟨bs, rfl, preparation⟩
    cases preparation with
    | catalogFailed e =>
      exact .bind (Process.path_request_iff.2 rfl) (Process.path_pure_iff.2 ⟨rfl, rfl⟩)
    | catalogEmpty =>
      exact .bind (Process.path_request_iff.2 rfl) (Process.path_pure_iff.2 ⟨rfl, rfl⟩)
    | catalogListed listed drawing =>
      refine .bind (Process.path_request_iff.2 rfl) ?_
      dsimp only
      rw [if_neg (by simpa using listed)]
      exact path_selectFrom_iff.2 ⟨_, rfl, drawing⟩

end

/-! ### Applying, resetting and restoring -/

theorem path_unlessRaised_iff {raised : Bool} {c : Call} {a : c.Answer} :
    Path ((unlessRaised raised c).runOn host) t a ↔
      (raised = true ∧ t = [] ∧ a = .error .interrupted) ∨ (raised = false ∧ t = [.answered c a]) := by
  unfold unlessRaised
  cases raised with
  | true =>
    rw [if_pos rfl, Program.runOn_pure, Process.path_pure_iff]
    simp
  | false =>
    rw [if_neg (by simp), Process.path_request_iff]
    simp

theorem path_compensate_iff (selection : Selection α) {cycle : Nat} {w : Whitelist} {phase : Phase}
    {e : CallError} {o : Outcome α} :
    Path ((compensate cycle w phase e).runOn host) t o ↔
      ∃ answer, t = [.answered (.setWhitelist w.layerIds) answer] ∧
        o = .ofRestore selection (.error (phase, e)) answer := by
  unfold compensate
  rw [Program.runOn_bind, Process.runOn_write, pure_bind, Program.runOn_bind, Process.path_bind_iff]
  constructor
  · rintro ⟨_, _, answer, rfl, hc, h⟩
    obtain rfl := Process.path_request_iff.1 hc
    cases answer <;> obtain ⟨rfl, rfl⟩ := Process.path_pure_iff.1 h <;> exact ⟨_, rfl, rfl⟩
  · rintro ⟨answer, rfl, rfl⟩
    refine ⟨_, [], answer, rfl, Process.path_request_iff.2 rfl, ?_⟩
    cases answer <;> exact Process.path_pure_iff.2 ⟨rfl, rfl⟩

theorem path_conclude_iff {cycle : Nat} {settings : Settings} {selection : Selection α}
    {w : Whitelist} {o : Outcome α} :
    Path ((conclude cycle settings selection w).runOn host) t o ↔
      ∃ raised answer, t = [.settled raised, .answered (.setWhitelist w.layerIds) answer] ∧
        o = .ofRestore selection (.ok ()) answer := by
  unfold conclude
  rw [Program.runOn_bind]
  constructor
  · intro path
    obtain ⟨_, _, raised, rfl, hs, hw⟩ := Process.path_bind_iff.1 path
    obtain rfl := Process.path_settleFor_iff.1 hs
    rw [Program.runOn_bind, Process.runOn_write, pure_bind, Program.runOn_bind] at hw
    obtain ⟨_, _, answer, rfl, hc, h⟩ := Process.path_bind_iff.1 hw
    obtain rfl := Process.path_request_iff.1 hc
    cases answer <;> obtain ⟨rfl, rfl⟩ := Process.path_pure_iff.1 h <;> exact ⟨raised, _, rfl, rfl⟩
  · rintro ⟨raised, answer, rfl, rfl⟩
    refine Process.path_bind_iff.2 ⟨[_], _, _, rfl, Process.path_settleFor_iff.2 rfl, ?_⟩
    rw [Program.runOn_bind, Process.runOn_write, pure_bind, Program.runOn_bind]
    refine Process.path_bind_iff.2 ⟨[_], [], _, rfl, Process.path_request_iff.2 rfl, ?_⟩
    cases answer <;> exact Process.path_pure_iff.2 ⟨rfl, rfl⟩

theorem path_resetVote_iff {cycle : Nat} {settings : Settings} {selection : Selection α}
    {w : Whitelist} {o : Outcome α} :
    Path ((resetVote cycle settings selection w).runOn host) t o ↔
      ∃ steps result answer,
        t = (steps ++ [.call .restore (.setWhitelist w.layerIds) answer]).map Beat.move ∧
        Resetting steps result ∧ o = .ofRestore selection result answer := by
  unfold resetVote
  rw [Program.runOn_bind, Process.runOn_write, pure_bind, Program.runOn_bind]
  constructor
  · intro path
    obtain ⟨_, _, raised, rfl, hs, hw⟩ := Process.path_bind_iff.1 path
    obtain rfl := Process.path_settleFor_iff.1 hs
    rw [Program.runOn_bind] at hw
    obtain ⟨_, _, answer, rfl, hr, h⟩ := Process.path_bind_iff.1 hw
    rcases path_unlessRaised_iff.1 hr with ⟨rfl, rfl, rfl⟩ | ⟨rfl, rfl⟩
    · obtain ⟨restored, rfl, rfl⟩ := (path_compensate_iff selection).1 h
      exact ⟨_, _, restored, rfl, .cut, rfl⟩
    · cases answer with
      | error e =>
        obtain ⟨restored, rfl, rfl⟩ := (path_compensate_iff selection).1 h
        exact ⟨_, _, restored, rfl, .refused e, rfl⟩
      | ok _ =>
        obtain ⟨late, restored, rfl, rfl⟩ := path_conclude_iff.1 h
        exact ⟨_, _, restored, rfl, .finished late, rfl⟩
  · rintro ⟨steps, result, answer, rfl, resetting, rfl⟩
    cases resetting with
    | cut =>
      refine Process.path_bind_iff.2 ⟨[_], _, true, rfl, Process.path_settleFor_iff.2 rfl, ?_⟩
      rw [Program.runOn_bind]
      exact Process.path_bind_iff.2 ⟨[], _, _, rfl, path_unlessRaised_iff.2 (.inl ⟨rfl, rfl, rfl⟩),
        (path_compensate_iff selection).2 ⟨answer, rfl, rfl⟩⟩
    | refused e =>
      refine Process.path_bind_iff.2 ⟨[_], _, false, rfl, Process.path_settleFor_iff.2 rfl, ?_⟩
      rw [Program.runOn_bind]
      exact Process.path_bind_iff.2 ⟨[_], _, _, rfl, path_unlessRaised_iff.2 (.inr ⟨rfl, rfl⟩),
        (path_compensate_iff selection).2 ⟨answer, rfl, rfl⟩⟩
    | finished raised =>
      refine Process.path_bind_iff.2 ⟨[_], _, false, rfl, Process.path_settleFor_iff.2 rfl, ?_⟩
      rw [Program.runOn_bind]
      exact Process.path_bind_iff.2 ⟨[_], _, _, rfl, path_unlessRaised_iff.2 (.inr ⟨rfl, rfl⟩),
        path_conclude_iff.2 ⟨raised, answer, rfl, rfl⟩⟩

/-- **After the snapshot, the steps forward take exactly the courses of `Forward`, and one attempt to
restore follows.** -/
theorem path_swap_iff {cycle : Nat} {settings : Settings} {selection : Selection α} {w : Whitelist}
    {o : Outcome α} :
    Path ((swap cycle settings selection w).runOn host) t o ↔
      ∃ steps result answer,
        t = (steps ++ [.call .restore (.setWhitelist w.layerIds) answer]).map Beat.move ∧
        Forward selection steps result ∧ o = .ofRestore selection result answer := by
  unfold swap
  rw [Program.runOn_bind, Process.runOn_write, pure_bind, Program.runOn_bind]
  constructor
  · intro path
    obtain ⟨_, _, raised, rfl, hs, hw⟩ := Process.path_bind_iff.1 path
    obtain rfl := Process.path_shutdownRaised_iff.1 hs
    rw [Program.runOn_bind] at hw
    obtain ⟨_, _, answer, rfl, ha, h⟩ := Process.path_bind_iff.1 hw
    rcases path_unlessRaised_iff.1 ha with ⟨rfl, rfl, rfl⟩ | ⟨rfl, rfl⟩
    · obtain ⟨restored, rfl, rfl⟩ := (path_compensate_iff selection).1 h
      exact ⟨_, _, restored, rfl, .stopped, rfl⟩
    · cases answer with
      | error e =>
        obtain ⟨restored, rfl, rfl⟩ := (path_compensate_iff selection).1 h
        exact ⟨_, _, restored, rfl, .refused e, rfl⟩
      | ok _ =>
        obtain ⟨steps, result, restored, rfl, resetting, rfl⟩ := path_resetVote_iff.1 h
        exact ⟨_, result, restored, rfl, .applied resetting, rfl⟩
  · rintro ⟨steps, result, answer, rfl, forward, rfl⟩
    cases forward with
    | stopped =>
      refine Process.path_bind_iff.2 ⟨[_], _, true, rfl, Process.path_shutdownRaised_iff.2 rfl, ?_⟩
      rw [Program.runOn_bind]
      exact Process.path_bind_iff.2 ⟨[], _, _, rfl, path_unlessRaised_iff.2 (.inl ⟨rfl, rfl, rfl⟩),
        (path_compensate_iff selection).2 ⟨answer, rfl, rfl⟩⟩
    | refused e =>
      refine Process.path_bind_iff.2 ⟨[_], _, false, rfl, Process.path_shutdownRaised_iff.2 rfl, ?_⟩
      rw [Program.runOn_bind]
      exact Process.path_bind_iff.2 ⟨[_], _, _, rfl, path_unlessRaised_iff.2 (.inr ⟨rfl, rfl⟩),
        (path_compensate_iff selection).2 ⟨answer, rfl, rfl⟩⟩
    | applied resetting =>
      refine Process.path_bind_iff.2 ⟨[_], _, false, rfl, Process.path_shutdownRaised_iff.2 rfl, ?_⟩
      rw [Program.runOn_bind]
      exact Process.path_bind_iff.2 ⟨[_], _, _, rfl, path_unlessRaised_iff.2 (.inr ⟨rfl, rfl⟩),
        path_resetVote_iff.2 ⟨_, _, answer, rfl, resetting, rfl⟩⟩

/-! ### The whole cycle -/

section

variable [Scalar α] {input : Input α} {settings : Settings} {retained : Option Whitelist}
  {stream : RandomStream}

/-- **A cycle takes exactly the courses of `Course`.** -/
theorem path_run_iff {cycle : Nat} {ending : Ending α} :
    Path ((run cycle input settings retained stream).runOn host) t ending ↔
      ∃ bs, t = bs.map Beat.move ∧ Course input settings retained stream bs ending := by
  unfold run
  rw [Program.runOn_bind, Process.runOn_write, pure_bind, Program.runOn_bind]
  constructor
  · intro path
    obtain ⟨_, _, ⟨prepared, rest⟩, rfl, hp, hn⟩ := Process.path_bind_iff.1 path
    obtain ⟨reads, rfl, preparation⟩ := path_prepare_iff.1 hp
    cases prepared with
    | error e =>
      obtain ⟨rfl, rfl⟩ := Process.path_pure_iff.1 hn
      exact ⟨reads, by simp, .unprepared preparation⟩
    | ok selection =>
      dsimp only at hn
      rw [Program.runOn_bind, Process.runOn_write, pure_bind, Program.runOn_bind] at hn
      obtain ⟨_, _, _, rfl, hb, hs⟩ := Process.path_bind_iff.1 hn
      rcases (path_baseline_iff .snapshot).1 hb with
        ⟨snap, w, rfl, rfl, anchored⟩ | ⟨e, rfl, rfl, fresh⟩
      · dsimp only at hs
        rw [Program.runOn_bind] at hs
        obtain ⟨_, _, _, rfl, ho, he⟩ := Process.path_bind_iff.1 hs
        obtain ⟨steps, result, answer, rfl, forward, rfl⟩ := path_swap_iff.1 ho
        obtain ⟨rfl, rfl⟩ := Process.path_pure_iff.1 he
        exact ⟨_, by simp, .swapped preparation anchored forward answer⟩
      · obtain ⟨rfl, rfl⟩ := Process.path_pure_iff.1 hs
        exact ⟨_, by simp [Beat.move], .unanchored preparation fresh e⟩
  · rintro ⟨bs, rfl, course⟩
    cases course with
    | unprepared preparation =>
      rw [← List.append_nil (bs.map Beat.move)]
      exact .bind (path_prepare_iff.2 ⟨_, rfl, preparation⟩) (Process.path_pure_iff.2 ⟨rfl, rfl⟩)
    | unanchored preparation fresh e =>
      rw [List.map_append]
      refine .bind (path_prepare_iff.2 ⟨_, rfl, preparation⟩) ?_
      dsimp only
      rw [Program.runOn_bind, Process.runOn_write, pure_bind, Program.runOn_bind]
      exact .bind ((path_baseline_iff .snapshot).2 (.inr ⟨e, rfl, rfl, fresh⟩))
        (Process.path_pure_iff.2 ⟨rfl, rfl⟩)
    | @swapped reads snap steps _ _ w _ preparation anchored forward answer =>
      rw [List.append_assoc, List.append_assoc, List.map_append, List.map_append]
      refine .bind (path_prepare_iff.2 ⟨_, rfl, preparation⟩) ?_
      dsimp only
      rw [Program.runOn_bind, Process.runOn_write, pure_bind, Program.runOn_bind]
      refine .bind ((path_baseline_iff .snapshot).2 (.inl ⟨_, _, rfl, rfl, anchored⟩)) ?_
      dsimp only
      rw [Program.runOn_bind, ← List.append_nil (List.map _ _)]
      exact .bind (path_swap_iff.2 ⟨_, _, _, rfl, forward, rfl⟩)
        (Process.path_pure_iff.2 ⟨rfl, rfl⟩)

/-- An exclusive cycle, on whatever carries out its steps: it does nothing but look at the state if a
cycle is in progress. Otherwise it enters, runs by what was retained when it entered, keeps what it could
not restore, looks at the state for its report, and leaves. Whoever else uses the state may do so in
between, so each of these steps finds a state of its own. -/
theorem path_runExclusiveOn_iff {h : Host (Process σ)} (silent : ∀ entries, h.log entries = pure ())
    {part : σ → State} {replace : σ → State → σ} {answer : Except Busy (Report α)} :
    Path (runExclusive h (Process.partCell part replace) input settings stream) t answer ↔
      (∃ s, (part s).busy = true ∧ t = [.exchanged s (replace s (part s).entered)] ∧
        answer = .error .busy) ∨
      (∃ s u ending kept seen left, (part s).busy = false ∧
        Path ((run ((part s).started + 1) input settings (part s).retained stream).runOn h) u ending ∧
        t = .exchanged s (replace s (part s).entered) :: (u ++
          [.exchanged kept (replace kept ((part kept).remember ending.outcome.kind ending.baseline)),
            .exchanged seen seen, .exchanged left (replace left (part left).leave)]) ∧
        answer = .ok ⟨(part s).started + 1, input.roundIndex, input.parametersVersion,
          ending.outcome, (part seen).whitelist⟩) := by
  unfold runExclusive
  constructor
  · intro path
    obtain ⟨_, _, _, rfl, he, hm⟩ := Process.path_bind_iff.1 path
    obtain ⟨s, rfl, rfl⟩ := Process.path_partExchange_iff.1 he
    by_cases busy : (part s).busy = true
    · rw [State.enter_busy busy] at hm
      obtain ⟨rfl, rfl⟩ := Process.path_pure_iff.1 hm
      exact .inl ⟨s, busy, rfl, rfl⟩
    · have idle : (part s).busy = false := by simpa using busy
      rw [State.enter_idle idle] at hm
      obtain ⟨u, _, ending, rfl, hr, hk⟩ := Process.path_bind_iff.1 hm
      obtain ⟨_, _, _, rfl, hu, hs⟩ := Process.path_bind_iff.1 hk
      obtain ⟨kept, rfl⟩ := Process.path_partUpdate_iff.1 hu
      obtain ⟨_, _, _, rfl, hd, hl⟩ := Process.path_bind_iff.1 hs
      obtain ⟨seen, rfl, rfl⟩ := Process.path_partRead_iff.1 hd
      rw [silent, pure_bind] at hl
      obtain ⟨_, _, _, rfl, hv, ha⟩ := Process.path_bind_iff.1 hl
      obtain ⟨left, rfl⟩ := Process.path_partUpdate_iff.1 hv
      obtain ⟨rfl, rfl⟩ := Process.path_pure_iff.1 ha
      exact .inr ⟨s, u, ending, kept, seen, left, idle, hr, rfl, rfl⟩
  · rintro (⟨s, busy, rfl, rfl⟩ | ⟨s, u, ending, kept, seen, left, idle, hr, rfl, rfl⟩)
    · refine .bind (Process.path_partExchange_iff.2 ⟨s, rfl, rfl⟩) ?_
      rw [State.enter_busy busy]
      exact Process.path_pure_iff.2 ⟨rfl, rfl⟩
    · refine .bind (Process.path_partExchange_iff.2 ⟨s, rfl, rfl⟩) ?_
      rw [State.enter_idle idle]
      refine .bind hr ?_
      refine .bind (Process.path_partUpdate_iff.2 ⟨kept, rfl⟩) ?_
      refine .bind (Process.path_partRead_iff.2 ⟨seen, rfl, rfl⟩) ?_
      rw [silent, pure_bind]
      exact .bind (Process.path_partUpdate_iff.2 ⟨left, rfl⟩) (Process.path_pure_iff.2 ⟨rfl, rfl⟩)

/-- **An exclusive cycle takes one of the courses of `Course`** by what was retained when it entered. -/
theorem path_runExclusive_iff {part : σ → State} {replace : σ → State → σ}
    {answer : Except Busy (Report α)} :
    Path (runExclusive host (Process.partCell part replace) input settings stream) t answer ↔
      (∃ s, (part s).busy = true ∧ t = [.exchanged s (replace s (part s).entered)] ∧
        answer = .error .busy) ∨
      (∃ s bs ending kept seen left, (part s).busy = false ∧
        Course input settings (part s).retained stream bs ending ∧
        t = .exchanged s (replace s (part s).entered) :: (bs.map Beat.move ++
          [.exchanged kept (replace kept ((part kept).remember ending.outcome.kind ending.baseline)),
            .exchanged seen seen, .exchanged left (replace left (part left).leave)]) ∧
        answer = .ok ⟨(part s).started + 1, input.roundIndex, input.parametersVersion,
          ending.outcome, (part seen).whitelist⟩) := by
  rw [path_runExclusiveOn_iff fun _ => rfl]
  refine or_congr_right ?_
  constructor
  · rintro ⟨s, u, ending, kept, seen, left, idle, path, rfl, rfl⟩
    obtain ⟨bs, rfl, course⟩ := path_run_iff.1 path
    exact ⟨s, bs, ending, kept, seen, left, idle, course, rfl, rfl⟩
  · rintro ⟨s, bs, ending, kept, seen, left, idle, course, rfl, rfl⟩
    exact ⟨s, _, ending, kept, seen, left, idle, path_run_iff.2 ⟨bs, rfl, course⟩, rfl, rfl⟩

/-- A preview looks at the state, reads and selects. -/
theorem path_preview_iff {part : σ → State} {replace : σ → State → σ}
    {r : Except PrepareError (Selection α)} :
    Path (preview host (Process.partCell part replace) input settings stream) t r ↔
      ∃ s reads rest, t = .exchanged s s :: reads.map Beat.move ∧
        Preparation input settings (part s).retained stream reads (r, rest) := by
  unfold preview
  constructor
  · intro path
    obtain ⟨_, _, _, rfl, hr, hp⟩ := Process.path_bind_iff.1 path
    obtain ⟨s, rfl, rfl⟩ := Process.path_partRead_iff.1 hr
    obtain ⟨_, _, ⟨result, rest⟩, rfl, hs, hd⟩ := Process.path_bind_iff.1 hp
    obtain ⟨reads, rfl, preparation⟩ := path_prepare_iff.1 hs
    obtain ⟨rfl, rfl⟩ := Process.path_pure_iff.1 hd
    exact ⟨s, reads, rest, by simp, preparation⟩
  · rintro ⟨s, reads, rest, rfl, preparation⟩
    refine .bind (Process.path_partRead_iff.2 ⟨s, rfl, rfl⟩) ?_
    rw [← List.append_nil (reads.map Beat.move)]
    exact .bind (path_prepare_iff.2 ⟨reads, rfl, preparation⟩) (Process.path_pure_iff.2 ⟨rfl, rfl⟩)

end

end MapBallot.Swap
