import MapBallot.Proofs.Swap.CallOrder

/-!
# `MapBallot.Proofs.Swap.Baseline` — the original whitelist is never lost

A cycle puts a narrowed list in place of the whitelist, and a call that fails may or may not have done
what was asked. Whoever takes the list that is found then for the original has lost it. This module
states what keeps that from happening: as long as the remote tool may hold anything else, the original
list is retained, and only a restore that was confirmed gives it up.

## Contents

* `World`, `Effect`, `Effects` — a remote tool that holds one whitelist, and what calls do to it;
* `Kept` — the invariant;
* `Session`, `Session.kept` — cycles and previews one after the other, which all keep it;
* `session_baseline` — what reports say of the whitelist is true.
-/

namespace MapBallot.Swap

open Remote (Call CallError Whitelist)
open Process (Path host)

variable {α : Type}

/-! ## A remote tool with one whitelist -/

/-- The whitelist of the remote tool, and the state of the cycles. -/
structure World where
  layerIds : List String
  state : State

/-- What a step does, and what it can be told. Reading gives the whitelist as it is; a replacement that
failed may have taken place. Nothing else touches the whitelist. -/
inductive Effect : Move State → World → World → Prop
  | catalog (w : World) (answer : Call.catalog.Answer) : Effect (.answered .catalog answer) w w
  | settings (w : World) (answer : Call.settings.Answer) : Effect (.answered .settings answer) w w
  | got (w : World) : Effect (.answered .getWhitelist (.ok ⟨w.layerIds⟩)) w w
  | unread (w : World) (e : CallError) : Effect (.answered .getWhitelist (.error e)) w w
  | stored (w : World) (ids : List String) (answer : Except CallError Unit) :
      Effect (.answered (.setWhitelist ids) answer) w { w with layerIds := ids }
  | unstored (w : World) (ids : List String) (e : CallError) :
      Effect (.answered (.setWhitelist ids) (.error e)) w w
  | reset (w : World) (answer : Call.reset.Answer) : Effect (.answered .reset answer) w w
  | polled (w : World) (raised : Bool) : Effect (.polled raised) w w
  | settled (w : World) (raised : Bool) : Effect (.settled raised) w w
  | exchanged (w : World) (state : State) :
      Effect (.exchanged w.state state) w { w with state := state }

/-- What several steps do, one after the other. -/
inductive Effects : List (Move State) → World → World → Prop
  | nil (w : World) : Effects [] w w
  | cons {m : Move State} {t : List (Move State)} {w x y : World} (head : Effect m w x)
      (tail : Effects t x y) : Effects (m :: t) w y

@[simp]
theorem effects_nil_iff {w x : World} : Effects [] w x ↔ x = w := by
  constructor
  · rintro ⟨⟩
    rfl
  · rintro rfl
    exact .nil x

@[simp]
theorem effects_cons_iff {m : Move State} {t : List (Move State)} {w y : World} :
    Effects (m :: t) w y ↔ ∃ x, Effect m w x ∧ Effects t x y := by
  constructor
  · rintro (_ | ⟨head, tail⟩)
    exact ⟨_, head, tail⟩
  · rintro ⟨x, head, tail⟩
    exact .cons head tail

@[simp]
theorem effects_append_iff {t u : List (Move State)} {w y : World} :
    Effects (t ++ u) w y ↔ ∃ x, Effects t w x ∧ Effects u x y := by
  induction t generalizing w with
  | nil => simp
  | cons m t ih =>
    simp only [List.cons_append, effects_cons_iff, ih]
    constructor
    · rintro ⟨v, head, x, ht, hu⟩
      exact ⟨x, ⟨v, head, ht⟩, hu⟩
    · rintro ⟨x, ⟨v, head, ht⟩, hu⟩
      exact ⟨v, head, x, ht, hu⟩

@[simp]
theorem effect_exchanged_iff {s s' : State} {w x : World} :
    Effect (.exchanged s s') w x ↔ s = w.state ∧ x = { w with state := s' } := by
  constructor
  · rintro ⟨⟩
    exact ⟨rfl, rfl⟩
  · rintro ⟨rfl, rfl⟩
    exact .exchanged w s'

/-! ## What the steps of a cycle do -/

/-- No call of a cycle changes the state of the cycles. -/
theorem Effects.state_eq {bs : List Beat} {w x : World} (h : Effects (bs.map Beat.move) w x) :
    x.state = w.state := by
  induction bs generalizing w with
  | nil =>
    obtain rfl := effects_nil_iff.1 h
    rfl
  | cons b bs ih =>
    obtain ⟨v, head, tail⟩ := effects_cons_iff.1 h
    rw [ih tail]
    cases b <;> cases head <;> rfl

/-- Reading does nothing to the whitelist. -/
theorem Effects.eq_of_onlyReads {bs : List Beat} {w x : World} (h : Effects (bs.map Beat.move) w x)
    (reading : OnlyReads bs) : x = w := by
  induction bs generalizing w with
  | nil => exact effects_nil_iff.1 h
  | cons b bs ih =>
    obtain ⟨v, head, tail⟩ := effects_cons_iff.1 h
    obtain ⟨hb, hbs⟩ := onlyReads_cons_iff.1 reading
    obtain rfl : v = w := by
      cases b <;> cases head <;> first | rfl | cases hb
    exact ih tail hbs

/-- Where a whitelist comes from does not matter: it is the original one. -/
theorem Anchored.original {purpose : Purpose} {w₀ : List String} {retained : Option Whitelist}
    {before ws : List Beat} {found : Whitelist} {w x : World}
    (h : Anchored purpose retained ws found) (reading : OnlyReads before)
    (effects : Effects ((before ++ ws).map Beat.move) w x)
    (known : retained = none ∨ retained = some ⟨w₀⟩) (back : retained = none → w.layerIds = w₀) :
    found = ⟨w₀⟩ := by
  rw [List.map_append, effects_append_iff] at effects
  obtain ⟨v, earlier, asked⟩ := effects
  obtain rfl := earlier.eq_of_onlyReads reading
  cases h with
  | kept =>
    rcases known with h | h
    · cases h
    · exact Option.some.inj h
  | read =>
    obtain ⟨_, head, _⟩ := effects_cons_iff.1 asked
    cases head
    rw [back rfl]

section

variable [Scalar α] {input : Input α} {settings : Settings} {retained : Option Whitelist}
  {stream : RandomStream}

/-- **A course keeps the original whitelist.** What is retained after it is the original one, and if
nothing is, then the remote tool holds it. -/
theorem Course.keeps {w₀ : List String} {bs : List Beat} {ending : Ending α} {w x : World}
    (h : Course input settings retained stream bs ending) (effects : Effects (bs.map Beat.move) w x)
    (known : retained = none ∨ retained = some ⟨w₀⟩) (back : retained = none → w.layerIds = w₀)
    {after : Option Whitelist}
    (hafter : after = State.retainedAfter retained ending.outcome.kind ending.baseline) :
    (after = none ∨ after = some ⟨w₀⟩) ∧ (after = none → x.layerIds = w₀) := by
  subst hafter
  cases h with
  | unprepared preparation =>
    obtain rfl := effects.eq_of_onlyReads preparation.onlyReads
    exact ⟨known, back⟩
  | unanchored preparation fresh e =>
    rw [List.map_append, effects_append_iff] at effects
    obtain ⟨v, hr, hs⟩ := effects
    obtain rfl := hr.eq_of_onlyReads preparation.onlyReads
    obtain rfl := hs.eq_of_onlyReads (by simp [OnlyReads, Beat.reads])
    exact ⟨known, back⟩
  | @swapped reads snap steps selection _ snapshot result preparation anchored forward answer =>
    rw [List.map_append, List.map_append, effects_append_iff] at effects
    obtain ⟨y, before, last⟩ := effects
    rw [effects_append_iff] at before
    obtain ⟨v, asked, _⟩ := before
    -- Whatever the steps forward did, the original list is what is put back or retained.
    obtain rfl := anchored.original preparation.onlyReads asked known back
    obtain ⟨z, head, tail⟩ := effects_cons_iff.1 last
    obtain rfl := effects_nil_iff.1 tail
    cases answer with
    | ok _ =>
      -- A confirmed restore put the original list back, and nothing is retained.
      cases head
      rcases result with _ | _ <;> exact ⟨.inl rfl, fun _ => rfl⟩
    | error r =>
      -- The restore may have taken place or not: the original list is retained.
      rcases result with _ | _ <;> exact ⟨.inr rfl, fun h => by cases h⟩

end

/-! ## Sessions -/

/-- The original whitelist `w₀` is not lost: it is retained, or else the remote tool holds it. -/
structure Kept (w₀ : List String) (w : World) : Prop where
  /-- No cycle is in progress. -/
  idle : w.state.busy = false
  known : w.state.retained = none ∨ w.state.retained = some ⟨w₀⟩
  back : w.state.retained = none → w.layerIds = w₀

/-- What a cycle or a preview came to. -/
inductive Answer (α : Type)
  | cycle (answer : Except Busy (Report α))
  | preview (answer : Except PrepareError (Selection α))

section

variable [Scalar α]

/-- Cycles and previews, one after the other, on a remote tool that holds the whitelist `w₀` at first.
What each of them came to is listed with the world after it. -/
inductive Session (w₀ : List String) : List (Answer α × World) → World → Prop
  | start : Session w₀ [] ⟨w₀, {}⟩
  | cycle {past : List (Answer α × World)} {w x : World} (session : Session w₀ past w)
      {input : Input α} {settings : Settings} {stream : RandomStream} {t : List (Move State)}
      {answer : Except Busy (Report α)}
      (path : Path (runExclusive host Process.cell input settings stream) t answer)
      (effects : Effects t w x) : Session w₀ (past ++ [(.cycle answer, x)]) x
  | preview {past : List (Answer α × World)} {w x : World} (session : Session w₀ past w)
      {input : Input α} {settings : Settings} {stream : RandomStream} {t : List (Move State)}
      {answer : Except PrepareError (Selection α)}
      (path : Path (preview host Process.cell input settings stream) t answer)
      (effects : Effects t w x) : Session w₀ (past ++ [(.preview answer, x)]) x

/-- A preview does nothing. -/
theorem preview_effects {input : Input α} {settings : Settings} {stream : RandomStream}
    {t : List (Move State)} {answer : Except PrepareError (Selection α)} {w x : World}
    (path : Path (preview host Process.cell input settings stream) t answer)
    (effects : Effects t w x) : x = w := by
  obtain ⟨s, reads, _, rfl, preparation⟩ := path_preview_iff.1 path
  obtain ⟨v, head, tail⟩ := effects_cons_iff.1 effects
  obtain ⟨rfl, rfl⟩ := effect_exchanged_iff.1 head
  exact tail.eq_of_onlyReads preparation.onlyReads

/-- **A cycle keeps the original whitelist**, and if its report says that the whitelist is back, then
nothing is retained after it. -/
theorem Kept.cycle {w₀ : List String} {w x : World} (h : Kept w₀ w) {input : Input α}
    {settings : Settings} {stream : RandomStream} {t : List (Move State)}
    {answer : Except Busy (Report α)}
    (path : Path (runExclusive host Process.cell input settings stream) t answer)
    (effects : Effects t w x) :
    Kept w₀ x ∧ ∀ report, answer = .ok report →
      report.outcome.kind = .succeeded ∨ report.outcome.kind = .applyFailed ∨
        report.whitelist = .baseline → x.state.retained = none := by
  rcases path_runExclusive_iff.1 path with
    ⟨s, busy, rfl, rfl⟩ | ⟨s, bs, ending, kept, seen, left, idle, course, rfl, rfl⟩
  · obtain ⟨v, head, _⟩ := effects_cons_iff.1 effects
    obtain ⟨rfl, _⟩ := effect_exchanged_iff.1 head
    exact absurd (h.idle.symm.trans busy) (by decide)
  · obtain ⟨v, head, tail⟩ := effects_cons_iff.1 effects
    obtain ⟨rfl, rfl⟩ := effect_exchanged_iff.1 head
    obtain ⟨u, done, last⟩ := effects_append_iff.1 tail
    simp only [effects_cons_iff, effect_exchanged_iff, effects_nil_iff, id_eq] at last
    obtain ⟨_, ⟨rfl, rfl⟩, _, ⟨rfl, rfl⟩, _, ⟨rfl, rfl⟩, rfl⟩ := last
    have entered : u.state.retained = w.state.retained := by
      rw [done.state_eq]
      exact State.entered_retained w.state
    have course : Course input settings w.state.retained stream bs ending := course
    obtain ⟨known, back⟩ := course.keeps done h.known h.back rfl
    rw [← entered] at known back
    refine ⟨⟨rfl, known, back⟩, ?_⟩
    rintro _ ⟨⟩ told
    show State.retainedAfter u.state.retained ending.outcome.kind ending.baseline = none
    rcases told with succeeded | failed | baseline
    · rw [show ending.outcome.kind = .succeeded from succeeded]
      rfl
    · rw [show ending.outcome.kind = .applyFailed from failed]
      rfl
    · exact State.whitelist_eq_baseline.1 baseline

/-- **Every session keeps the original whitelist.** -/
theorem Session.kept {w₀ : List String} {past : List (Answer α × World)} {w : World}
    (session : Session w₀ past w) : Kept w₀ w := by
  induction session with
  | start => exact ⟨rfl, .inl rfl, fun _ => rfl⟩
  | cycle _ path effects ih => exact (ih.cycle path effects).1
  | preview _ path effects ih => rwa [preview_effects path effects]

/-- **The original whitelist is never lost.** However many cycles and previews there were, with
whatever failures and shutdowns: nothing or exactly the original whitelist is retained, and if nothing
is, then the remote tool holds it. What reports said of the whitelist was true when they were made. -/
theorem session_baseline {w₀ : List String} {past : List (Answer α × World)} {w : World}
    (session : Session w₀ past w) :
    (w.state.retained = none ∨ w.state.retained = some ⟨w₀⟩) ∧
    (w.state.retained = none → w.layerIds = w₀) ∧
    ∀ report x, (.cycle (.ok report), x) ∈ past →
      report.outcome.kind = .succeeded ∨ report.outcome.kind = .applyFailed ∨
        report.whitelist = .baseline → x.layerIds = w₀ := by
  refine ⟨session.kept.known, session.kept.back, ?_⟩
  induction session with
  | start =>
    intro report x made
    cases made
  | cycle session path effects ih =>
    intro report x made told
    rcases List.mem_append.1 made with earlier | latest
    · exact ih report x earlier told
    · obtain ⟨⟨⟩, rfl⟩ := Prod.mk.inj (List.mem_singleton.1 latest)
      obtain ⟨kept, back⟩ := session.kept.cycle path effects
      exact kept.back (back report rfl told)
  | preview _ _ _ ih =>
    intro report x made told
    rcases List.mem_append.1 made with earlier | latest
    · exact ih report x earlier told
    · obtain ⟨⟨⟩, _⟩ := Prod.mk.inj (List.mem_singleton.1 latest)

end

/-- The world after a cycle that put one layer on the whitelist and could not restore. -/
def soleWorld : World := ⟨[soleLayer.id], { started := 1, retained := soleWhitelist }⟩

/-- There is a session with such a cycle. -/
theorem session_sole :
    ∃ past : List (Answer Rat × World), Session soleWhitelist.layerIds past soleWorld := by
  obtain ⟨rest, course⟩ := course_sole
  have path : Path (runExclusive host Process.cell soleInput soleSettings soleStream) _ _ :=
    path_runExclusive_iff.2 (.inr ⟨{}, _, _, { busy := true, started := 1 },
      { busy := true, started := 1, retained := soleWhitelist },
      { busy := true, started := 1, retained := soleWhitelist }, rfl, course, rfl, rfl⟩)
  refine ⟨_, .cycle .start path ?_⟩
  refine .cons (effect_exchanged_iff.2 ⟨rfl, rfl⟩) ?_
  refine .cons (.catalog _ _) ?_
  refine .cons (.got ⟨soleWhitelist.layerIds, State.entered {}⟩) ?_
  refine .cons (.got ⟨soleWhitelist.layerIds, State.entered {}⟩) ?_
  refine .cons (.polled _ _) ?_
  refine .cons (.stored _ _ _) ?_
  refine .cons (.settled _ _) ?_
  refine .cons (.reset _ _) ?_
  refine .cons (.unstored _ _ _) ?_
  refine .cons (effect_exchanged_iff.2 ⟨rfl, rfl⟩) ?_
  refine .cons (effect_exchanged_iff.2 ⟨rfl, rfl⟩) ?_
  exact .cons (effect_exchanged_iff.2 ⟨rfl, rfl⟩) (.nil _)

/-- After a cycle that could not restore, the remote tool holds the narrowed list, and the original one
is retained. -/
theorem session_baseline_narrowed :
    ∃ (past : List (Answer Rat × World)) (w : World), Session soleWhitelist.layerIds past w ∧
      w.layerIds = [soleLayer.id] ∧
      (w.state.retained = none ∨ w.state.retained = some ⟨soleWhitelist.layerIds⟩) := by
  obtain ⟨past, session⟩ := session_sole
  exact ⟨past, _, session, rfl, (session_baseline session).1⟩

end MapBallot.Swap
