import MapBallot.Proofs.Swap.Bound

/-!
# `MapBallot.Proofs.Swap.Midway` — previews while a cycle is in progress

A preview does not care whether a cycle is in progress: it reads the whitelist that the remote tool holds
when it asks. A cycle that goes well replaces the whitelist twice, by its selection and by the original
list. In between a preview is told the selection of the cycle, so it shows a choice among the layers that
are voted on already, and not the choice that the next cycle makes.

## Contents

* `Actor`, `stepsOf`, `Inquiry`, `Concurrent` — a cycle and previews, in any order of their steps;
* `puts`, `Effects.layerIds_eq` — the whitelist is what was put there last;
* `Applied`, `puts_prefix_of_cycle`, `retains_none_of_cycle` — what a cycle has done so far;
* `Concurrent.layerIds_applied`, `Concurrent.layerIds_unapplied` — what the whitelist is meanwhile;
* `Alone`, `Concurrent.preparation` — what previews are told without a cycle, and with one;
* `preview_midway` — what a preview draws from, and when it is what it draws from without a cycle;
* `preview_narrowed` — a preview that draws from the selection of a cycle.
-/

namespace MapBallot.Swap

open Remote (Call CallError Whitelist)
open Process (Path host)

variable {α σ : Type}

/-! ## Steps of several -/

/-- Who makes a step: the cycle, or one of the previews. -/
inductive Actor
  | cycle
  | preview (n : Nat)
  deriving DecidableEq, Repr

/-- The steps of one, among the steps of all. -/
def stepsOf (a : Actor) (T : List (Actor × Move State)) : List (Move State) :=
  T.filterMap fun e => if e.1 = a then some e.2 else none

theorem stepsOf_append (a : Actor) (T U : List (Actor × Move State)) :
    stepsOf a (T ++ U) = stepsOf a T ++ stepsOf a U := Process.movesOf_append a T U

theorem mem_stepsOf {a : Actor} {m : Move State} {T : List (Actor × Move State)} :
    m ∈ stepsOf a T ↔ (a, m) ∈ T := Process.mem_movesOf

/-- Each step of one is made at some time. -/
theorem exists_of_stepsOf {a : Actor} {T : List (Actor × Move State)} {t u : List (Move State)}
    {m : Move State} (made : stepsOf a T = t ++ m :: u) :
    ∃ before after, T = before ++ (a, m) :: after ∧ stepsOf a before = t :=
  Process.exists_of_movesOf made

/-! ## The whitelist is what was put there last -/

/-- The step does not make a call that fails. -/
def Granted : Move σ → Prop
  | .answered _ answer => ∃ value, answer = .ok value
  | _ => True

/-- The lists that were put on the whitelist. -/
def puts (t : List (Move σ)) : List (List String) :=
  t.filterMap fun
    | .answered (.setWhitelist ids) _ => some ids
    | _ => none

@[simp]
theorem puts_append (t u : List (Move σ)) : puts (t ++ u) = puts t ++ puts u := List.filterMap_append

theorem OnlyReads.puts_eq {bs : List Beat} (h : OnlyReads bs) :
    puts (bs.map (Beat.move (σ := σ))) = [] := by
  refine List.filterMap_eq_nil_iff.2 fun m made => ?_
  rcases m with ⟨_ | _ | _ | ids | _, answer⟩ | _ | _ | _ <;> try rfl
  exact absurd made (h.not_replaced ids answer)

/-- With every call granted, the remote tool holds the list that was put there last. -/
theorem Effects.layerIds_eq {t : List (Move State)} {w x : World} (effects : Effects t w x)
    (granted : ∀ m ∈ t, Granted m) : x.layerIds = (puts t).getLast?.getD w.layerIds := by
  induction effects with
  | nil => rfl
  | @cons m t w v x head tail ih =>
    rw [ih fun m mem => granted m (.tail _ mem)]
    have answered := granted m (.head _)
    cases head with
    | catalog | settings | got | unread | reset | polled | settled | exchanged => rfl
    | stored _ ids answer =>
      show _ = (ids :: puts t).getLast?.getD w.layerIds
      rw [List.getLast?_cons]
      rfl
    | unstored _ ids e =>
      obtain ⟨_, ⟨⟩⟩ := answered

/-- A step that does nothing. -/
def Idle (m : Move State) : Prop := ∀ w x, Effect m w x → x = w

/-- If nobody else does anything, then all that is done is done by one. -/
theorem Effects.stepsOf {a : Actor} {T : List (Actor × Move State)} {w x : World}
    (effects : Effects (T.map Prod.snd) w x) (idle : ∀ b m, (b, m) ∈ T → b ≠ a → Idle m) :
    Effects (Swap.stepsOf a T) w x := by
  induction T generalizing w with
  | nil => exact effects
  | cons e T ih =>
    obtain ⟨b, m⟩ := e
    obtain ⟨v, head, tail⟩ := effects_cons_iff.1 effects
    have rest := ih tail fun b m mem => idle b m (.tail _ mem)
    by_cases own : b = a
    · obtain rfl := own
      have step : Swap.stepsOf b ((b, m) :: T) = m :: Swap.stepsOf b T :=
        Process.movesOf_cons_self b m T
      rw [step]
      exact .cons head rest
    · have step : Swap.stepsOf a ((b, m) :: T) = Swap.stepsOf a T :=
        Process.movesOf_cons_of_ne own m T
      obtain rfl := idle b m (.head _) own w v head
      rw [step]
      exact rest

theorem Effects.retained_eq_none {t : List (Move State)} {w x : World} (effects : Effects t w x)
    (keeping : ∀ s s', .exchanged s s' ∈ t → s.retained = none → s'.retained = none)
    (start : w.state.retained = none) : x.state.retained = none := by
  induction effects with
  | nil => exact start
  | @cons m t w v x head tail ih =>
    refine ih (fun s s' mem => keeping s s' (.tail _ mem)) ?_
    cases head with
    | exchanged _ state => exact keeping w.state state (.head _) start
    | catalog | settings | got | unread | stored | unstored | reset | polled | settled => exact start

/-! ## A cycle and previews -/

/-- What a cycle or a preview selects by. -/
structure Inquiry (α : Type) where
  input : Input α
  settings : Settings
  stream : RandomStream

section

variable [Scalar α]

/-- A cycle. -/
def Inquiry.cycle (q : Inquiry α) : Process State (Except Busy (Report α)) :=
  runExclusive host Process.cell q.input q.settings q.stream

/-- A preview. -/
def Inquiry.preview (q : Inquiry α) : Process State (Except PrepareError (Selection α)) :=
  Swap.preview host Process.cell q.input q.settings q.stream

/-- A cycle and previews, each as far as it has come. The remote tool holds the whitelist `w₀` at first
and grants every call, and nothing is retained. -/
structure Concurrent (w₀ : List String) (cycle : Inquiry α) (previews : Nat → Inquiry α)
    (T : List (Actor × Move State)) (x : World) : Prop where
  cycle : ∃ rest, cycle.cycle.Run (stepsOf .cycle T) rest
  previews (n : Nat) : ∃ rest, (previews n).preview.Run (stepsOf (.preview n) T) rest
  effects : ∃ s, s.retained = none ∧ Effects (T.map Prod.snd) ⟨w₀, s⟩ x
  granted : ∀ a m, (a, m) ∈ T → Granted m

variable {w₀ : List String} {cycle : Inquiry α} {previews : Nat → Inquiry α}
  {T before after : List (Actor × Move State)} {x : World}

/-- What was done up to some time. -/
theorem Concurrent.of_append (h : Concurrent w₀ cycle previews (before ++ after) x) :
    ∃ v, Concurrent w₀ cycle previews before v ∧ Effects (after.map Prod.snd) v x := by
  obtain ⟨⟨_, cycling⟩, previewing, ⟨s, fresh, effects⟩, granted⟩ := h
  rw [List.map_append, effects_append_iff] at effects
  obtain ⟨v, earlier, later⟩ := effects
  rw [stepsOf_append] at cycling
  refine ⟨v, ⟨cycling.of_append, fun n => ?_, ⟨s, fresh, earlier⟩, fun a m mem => ?_⟩, later⟩
  · obtain ⟨_, run⟩ := previewing n
    rw [stepsOf_append] at run
    exact run.of_append
  · exact granted a m (List.mem_append_left _ mem)

/-- A step of a preview does nothing. -/
theorem idle_of_preview {q : Inquiry α} {t : List (Move State)}
    {rest : Process State (Except PrepareError (Selection α))} (run : q.preview.Run t rest) :
    ∀ m ∈ t, Idle m := by
  intro m made w x effect
  obtain ⟨u, r, path⟩ := run.exists_path
  obtain ⟨s, reads, _, whole, preparation⟩ := path_preview_iff.1 path
  have mem : m ∈ .exchanged s s :: reads.map Beat.move := whole ▸ List.mem_append_left u made
  rcases List.mem_cons.1 mem with rfl | read
  · obtain ⟨rfl, rfl⟩ := effect_exchanged_iff.1 effect
    rfl
  · obtain ⟨b, hb, rfl⟩ := List.mem_map.1 read
    have single : Effects ([b].map Beat.move) w x := .cons effect (.nil x)
    exact single.eq_of_onlyReads fun c hc => List.mem_singleton.1 hc ▸ preparation.onlyReads b hb

/-- All that happens to the world is what the cycle does. -/
theorem Concurrent.cycle_effects (h : Concurrent w₀ cycle previews T x) :
    ∃ s, s.retained = none ∧ Effects (stepsOf .cycle T) ⟨w₀, s⟩ x := by
  obtain ⟨s, fresh, effects⟩ := h.effects
  refine ⟨s, fresh, effects.stepsOf fun b m mem other => ?_⟩
  cases b with
  | cycle => exact absurd rfl other
  | preview n =>
    obtain ⟨_, run⟩ := h.previews n
    exact idle_of_preview run m (mem_stepsOf.2 mem)

/-! ## What a cycle has done so far -/

/-- The cycle drew a selection within the whitelist `w₀`. -/
def Drew (q : Inquiry α) (w₀ : List String) (t : List (Move State)) (selection : Selection α) : Prop :=
  ∃ o, DrawsFrom id q.settings t o ∧ o.bound = ⟨w₀⟩ ∧ o.draw q.input q.stream = .ok selection

/-- The cycle has put its selection on the whitelist, and has not put anything else there since. -/
def Applied (q : Inquiry α) (w₀ : List String) (t : List (Move State)) (selection : Selection α) :
    Prop :=
  Drew q w₀ t selection ∧ puts t = [selection.layerIds]

omit [Scalar α] in
theorem Forward.puts {selection : Selection α} {steps : List Beat}
    {r : Except (Phase × CallError) Unit} (h : Forward selection steps r) :
    Swap.puts (steps.map (Beat.move (σ := σ))) = [] ∨
      Swap.puts (steps.map (Beat.move (σ := σ))) = [selection.layerIds] := by
  rcases h with _ | e | ⟨_ | e | _⟩
  · exact .inl rfl
  all_goals exact .inr rfl

/-- A selection was drawn from an offer. -/
theorem Preparation.drawn {input : Input α} {settings : Settings} {retained : Option Whitelist}
    {stream left : RandomStream} {reads : List Beat} {selection : Selection α}
    (h : Preparation input settings retained stream reads (.ok selection, left)) :
    ∃ o, Offered settings retained reads o ∧ o.draw input stream = .ok selection := by
  rcases h.offered_or_unread with ⟨o, offered, drawn⟩ | unread
  · exact ⟨o, offered, mapError_eq_ok drawn⟩
  · cases unread

variable {q : Inquiry α} {t : List (Move State)} {s : State}
  {rest : Process State (Except Busy (Report α))}

theorem puts_eq_nil_of_extended {t t' : List (Move State)} (begun : t <+: t') (reading : puts t' = []) :
    puts t = [] := by
  obtain ⟨u, rfl⟩ := begun
  rw [puts_append] at reading
  exact (List.append_eq_nil_iff.1 reading).1

/-- A cycle that has taken its snapshot. -/
theorem puts_prefix_of_snapshot {reads snap steps : List Beat} {selection : Selection α} {w : Whitelist}
    {left : RandomStream} {result : Except (Phase × CallError) Unit} {answer : Except CallError Unit}
    {c tail : List (Move State)} (idle : s.busy = false) (fresh : s.retained = none)
    (preparation : Preparation q.input q.settings s.retained q.stream reads (.ok selection, left))
    (anchored : Anchored .snapshot s.retained snap w) (forward : Forward selection steps result)
    (effects : Effects (.exchanged s s.entered :: (reads ++ snap).map Beat.move ++ c) ⟨w₀, s⟩ x)
    (further : c <+: steps.map Beat.move ++ .answered (.setWhitelist w.layerIds) answer :: tail)
    (leaving : puts tail = []) :
    puts (.exchanged s s.entered :: (reads ++ snap).map Beat.move ++ c) <+: [w₀] ∨
      ∃ selection,
        Drew q w₀ (.exchanged s s.entered :: (reads ++ snap).map Beat.move ++ c) selection ∧
        puts (.exchanged s s.entered :: (reads ++ snap).map Beat.move ++ c) <+:
          [selection.layerIds, w₀] := by
  have only : OnlyReads (reads ++ snap) :=
    onlyReads_append_iff.2 ⟨preparation.onlyReads, anchored.onlyReads⟩
  -- The snapshot found the original list, since nothing was put on the whitelist before.
  have original : w = ⟨w₀⟩ := by
    obtain ⟨v, asked, _⟩ := effects_append_iff.1 effects
    obtain ⟨v₁, head, asked⟩ := effects_cons_iff.1 asked
    obtain ⟨_, rfl⟩ := effect_exchanged_iff.1 head
    exact anchored.original preparation.onlyReads asked (.inl fresh) fun _ => rfl
  have drew : Drew q w₀ (.exchanged s s.entered :: (reads ++ snap).map Beat.move ++ c) selection := by
    obtain ⟨o, offered, drawn⟩ := preparation.drawn
    have draws : DrawsFrom id q.settings
        (.exchanged s s.entered :: (reads ++ snap).map Beat.move ++ c) o :=
      ⟨s, s.entered, reads, snap.map Beat.move ++ c, by simp, offered⟩
    exact ⟨o, draws, Kept.bound ⟨idle, .inl fresh, fun _ => rfl⟩ draws effects, drawn⟩
  have first : puts (.exchanged s s.entered :: (reads ++ snap).map Beat.move ++ c) = puts c := by
    rw [puts_append, show puts (.exchanged s s.entered :: (reads ++ snap).map Beat.move) = []
      from only.puts_eq, List.nil_append]
  have later : puts c <+: puts (steps.map (Beat.move (σ := State))) ++ [w₀] := by
    obtain ⟨u, whole⟩ := further
    refine ⟨puts u, ?_⟩
    rw [← puts_append, whole, puts_append]
    show _ ++ w.layerIds :: puts tail = _
    rw [leaving, original]
  rw [first]
  rcases forward.puts (σ := State) with nothing | one
  · rw [nothing] at later
    exact .inl later
  · rw [one] at later
    exact .inr ⟨selection, drew, later⟩

/-- **A cycle puts its selection on the whitelist and then the original list**, or only the original
list, as far as it comes. -/
theorem puts_prefix_of_cycle (run : q.cycle.Run t rest) (effects : Effects t ⟨w₀, s⟩ x)
    (fresh : s.retained = none) :
    puts t <+: [w₀] ∨ ∃ selection, Drew q w₀ t selection ∧ puts t <+: [selection.layerIds, w₀] := by
  obtain ⟨u, answer, path⟩ := run.exists_path
  have reading {t' : List (Move State)} (begun : t <+: t') (nothing : puts t' = []) :
      puts t <+: [w₀] := by
    rw [puts_eq_nil_of_extended begun nothing]
    exact List.nil_prefix
  rcases path_runExclusive_iff.1 path with
    ⟨_, _, whole, _⟩ | ⟨s₁, bs, ending, kept, seen, left, idle, course, whole, _⟩
  · exact .inl (reading ⟨u, whole⟩ rfl)
  · cases course with
    | unprepared preparation =>
      refine .inl (reading ⟨u, whole⟩ ?_)
      show puts (bs.map Beat.move ++ _) = []
      rw [puts_append, preparation.onlyReads.puts_eq]
      rfl
    | @unanchored reads _ _ preparation _ e =>
      refine .inl (reading ⟨u, whole⟩ ?_)
      have only : OnlyReads (reads ++ [.call .snapshot .getWhitelist (.error e)]) :=
        onlyReads_append_iff.2 ⟨preparation.onlyReads, by simp [OnlyReads, Beat.reads]⟩
      show puts (List.map Beat.move _ ++ _) = []
      rw [puts_append, only.puts_eq]
      rfl
    | @swapped reads snap steps selection _ w _ preparation anchored forward answer =>
      have only : OnlyReads (reads ++ snap) :=
        onlyReads_append_iff.2 ⟨preparation.onlyReads, anchored.onlyReads⟩
      simp only [List.map_append, List.append_assoc] at whole
      rw [← List.append_assoc (reads.map _), ← List.map_append, ← List.cons_append] at whole
      -- The cycle has come to its snapshot, or not yet.
      rcases List.append_eq_append_iff.1 whole with ⟨c, front, _⟩ | ⟨c, rfl, back⟩
      · exact .inl (reading ⟨c, front.symm⟩ only.puts_eq)
      · obtain ⟨v, head, _⟩ := effects_cons_iff.1 effects
        obtain ⟨rfl, _⟩ := effect_exchanged_iff.1 head
        exact puts_prefix_of_snapshot idle fresh preparation anchored forward effects
          ⟨u, back.symm⟩ rfl

/-- With every call granted, nothing is retained after a course in which nothing was retained. -/
theorem Course.retains_none {input : Input α} {settings : Settings} {stream : RandomStream}
    {bs : List Beat} {ending : Ending α} (h : Course input settings none stream bs ending)
    (granted : ∀ m ∈ bs.map (Beat.move (σ := State)), Granted m) :
    State.retainedAfter none ending.outcome.kind ending.baseline = none := by
  cases h with
  | unprepared | unanchored => rfl
  | @swapped _ _ _ _ _ w result _ _ _ answer =>
    obtain ⟨_, rfl⟩ : Granted (σ := State) (.answered (.setWhitelist w.layerIds) answer) :=
      granted _ (by simp [Beat.move])
    rcases result with ⟨_, _⟩ | _ <;> rfl

/-- With every call granted, a cycle that found nothing retained retains nothing. -/
theorem retains_none_of_cycle (run : q.cycle.Run t rest) (effects : Effects t ⟨w₀, s⟩ x)
    (fresh : s.retained = none) (granted : ∀ m ∈ t, Granted m) : x.state.retained = none := by
  -- Only the cycle replaces the state, so it is enough to look at what it does to it.
  refine effects.retained_eq_none (fun s₁ s₂ made found => ?_) fresh
  obtain ⟨u, answer, path⟩ := run.exists_path
  rcases path_runExclusive_iff.1 path with
    ⟨_, _, whole, _⟩ | ⟨s₀, bs, ending, kept, seen, left, idle, course, whole, _⟩
  · have mem := List.mem_singleton.1 (whole ▸ List.mem_append_left u made)
    cases mem
    exact (State.entered_retained _).trans found
  · have begun (mem : .exchanged s₁ s₂ ∈ Move.exchanged s₀ s₀.entered :: bs.map Beat.move) :
        s₂.retained = none := by
      rcases List.mem_cons.1 mem with entered | beat
      · cases entered
        exact (State.entered_retained _).trans found
      · obtain ⟨b, _, same⟩ := List.mem_map.1 beat
        cases b <;> cases same
    rw [← List.cons_append] at whole
    -- The cycle has come to its end, where it remembers what it could not restore, or not yet.
    rcases List.append_eq_append_iff.1 whole with ⟨c, front, _⟩ | ⟨c, rfl, back⟩
    · exact begun (front ▸ List.mem_append_left c made)
    · rcases List.mem_append.1 made with mem | mem
      · exact begun mem
      · obtain ⟨v, early, _⟩ := effects_append_iff.1 effects
        obtain ⟨v₁, head, _⟩ := effects_cons_iff.1 early
        obtain ⟨rfl, _⟩ := effect_exchanged_iff.1 head
        have course : Course q.input q.settings s₀.retained q.stream bs ending := course
        rw [fresh] at course
        have after := course.retains_none fun m hm =>
          granted m (List.mem_append_left _ (.tail _ hm))
        have last := back ▸ List.mem_append_left u mem
        simp only [List.mem_cons, List.not_mem_nil, or_false, Move.exchanged.injEq, id_eq] at last
        rcases last with ⟨rfl, rfl⟩ | ⟨rfl, rfl⟩ | ⟨rfl, rfl⟩
        · show State.retainedAfter s₁.retained _ _ = none
          rw [found, after]
        · exact found
        · exact found

/-! ## What the whitelist is meanwhile -/

theorem Concurrent.retained (h : Concurrent w₀ cycle previews T x) : x.state.retained = none := by
  obtain ⟨s, fresh, effects⟩ := h.cycle_effects
  obtain ⟨_, run⟩ := h.cycle
  exact retains_none_of_cycle run effects fresh fun m hm => h.granted _ m (mem_stepsOf.1 hm)

theorem Concurrent.layerIds (h : Concurrent w₀ cycle previews T x) :
    x.layerIds = (puts (stepsOf .cycle T)).getLast?.getD w₀ := by
  obtain ⟨s, _, effects⟩ := h.cycle_effects
  exact effects.layerIds_eq fun m hm => h.granted _ m (mem_stepsOf.1 hm)

/-- Between applying and restoring, the remote tool holds the selection of the cycle. -/
theorem Concurrent.layerIds_applied (h : Concurrent w₀ cycle previews T x) {selection : Selection α}
    (applied : Applied cycle w₀ (stepsOf .cycle T) selection) : x.layerIds = selection.layerIds := by
  rw [h.layerIds, applied.2]
  rfl

/-- Before and after, it holds the original whitelist. -/
theorem Concurrent.layerIds_unapplied (h : Concurrent w₀ cycle previews T x)
    (unapplied : ∀ selection, ¬ Applied cycle w₀ (stepsOf .cycle T) selection) : x.layerIds = w₀ := by
  obtain ⟨s, fresh, effects⟩ := h.cycle_effects
  obtain ⟨_, run⟩ := h.cycle
  rw [h.layerIds]
  rcases puts_prefix_of_cycle run effects fresh with only | ⟨selection, drew, both⟩
  · rcases List.prefix_cons_iff.1 only with nothing | ⟨tail, first, last⟩
    · rw [nothing]
      rfl
    · rw [first, List.prefix_nil.1 last]
      rfl
  · rcases List.prefix_cons_iff.1 both with nothing | ⟨tail, first, more⟩
    · rw [nothing]
      rfl
    · rcases List.prefix_cons_iff.1 more with nothing | ⟨tail', second, last⟩
      · -- Only the selection was put there: the cycle has applied it.
        exact absurd ⟨drew, first.trans (nothing ▸ rfl)⟩ (unapplied selection)
      · rw [first, second, List.prefix_nil.1 last]
        rfl

/-! ## What previews are told meanwhile -/

/-- What a preview comes to with every call granted and nothing retained: it is told that there is
nothing to select from, or it asks for the whitelist last and draws. -/
theorem Preparation.granted {input : Input α} {settings : Settings} {stream left : RandomStream}
    {reads : List Beat} {r : Except PrepareError (Selection α)}
    (h : Preparation input settings none stream reads (r, left))
    (granted : ∀ b ∈ reads, Granted (b.move (σ := State))) :
    (.call .catalog .catalog (.ok []) ∈ reads ∧ r = .error (.choice .emptyCatalog)) ∨
      ∃ o reads', Offered settings none reads o ∧
        reads = reads' ++ [.call .bound .getWhitelist (.ok o.bound)] ∧
        r = (o.draw input stream).mapError .choice := by
  cases h with
  | catalogFailed e =>
    obtain ⟨_, ⟨⟩⟩ := granted _ (.head _)
  | catalogEmpty => exact .inl ⟨.head _, rfl⟩
  | catalogListed listed drawing =>
    generalize result : (r, left) = drawn at drawing
    cases drawing with
    | guidanceFailed _ e =>
      obtain ⟨_, ⟨⟩⟩ := granted _ (.tail _ (.head _))
    | boundFailed _ _ e =>
      obtain ⟨_, ⟨⟩⟩ := granted _ (.tail _ (List.mem_append_right _ (.head _)))
    | chosen guided bounded =>
      have offered := Offered.told listed guided bounded
      cases bounded with
      | read w => exact .inr ⟨_, _ :: _, offered, rfl, congrArg Prod.fst result⟩

/-- What a preview answers that is told the same catalog, plan and policy as for an offer, while nobody
else is about anything and the remote tool holds the whitelist `w₀`. -/
def Alone (w₀ : List String) (q : Inquiry α) (o : Offer) (r : Except PrepareError (Selection α)) :
    Prop :=
  ∃ u o', q.preview.Path u r ∧ Effects u ⟨w₀, {}⟩ ⟨w₀, {}⟩ ∧ DrawsFrom id q.settings u o' ∧
    o'.catalog = o.catalog ∧ o'.plan = o.plan ∧ o'.policy = o.policy

/-- That is what is drawn from the layers of the original whitelist. -/
theorem Alone.eq_draw {o : Offer} {r : Except PrepareError (Selection α)} (h : Alone w₀ q o r) :
    r = (Offer.draw { o with bound := ⟨w₀⟩ } q.input q.stream).mapError .choice := by
  obtain ⟨u, o', path, effects, draws, catalog, plan, policy⟩ := h
  have bound : o'.bound = ⟨w₀⟩ := Kept.bound ⟨rfl, .inl rfl, fun _ => rfl⟩ draws effects
  have same : o' = { o with bound := ⟨w₀⟩ } := by
    obtain ⟨_, _, _, _⟩ := o'
    simp only at catalog plan policy bound
    rw [catalog, plan, policy, bound]
  rw [← same]
  exact (Selects.preview path).eq_draw draws

theorem Offered.alone {retained : Option Whitelist} {reads : List Beat} {o : Offer}
    (h : Offered q.settings retained reads o) (bound : o.bound = ⟨w₀⟩) :
    Alone w₀ q o ((o.draw q.input q.stream).mapError .choice) := by
  obtain ⟨u, path, effects, draws⟩ := h.untouched q.input q.stream
  rw [bound] at effects
  exact ⟨u, o, path, effects, draws, rfl, rfl, rfl⟩

variable {n : Nat} {r : Except PrepareError (Selection α)}

/-- A preview that has answered found nothing retained. -/
theorem Concurrent.preparation (h : Concurrent w₀ cycle previews T x)
    (answered : (previews n).preview.Path (stepsOf (.preview n) T) r) :
    ∃ s reads left, stepsOf (.preview n) T = .exchanged s s :: reads.map Beat.move ∧
      s.retained = none ∧
      Preparation (previews n).input (previews n).settings none (previews n).stream reads (r, left) := by
  obtain ⟨s, reads, left, told, preparation⟩ := path_preview_iff.1 answered
  -- The first step of the preview looked at the state that the others had left by then.
  obtain ⟨before, after, rfl, _⟩ := exists_of_stepsOf (t := []) told
  obtain ⟨v, earlier, later⟩ := h.of_append
  obtain ⟨_, head, _⟩ := effects_cons_iff.1 later
  obtain ⟨rfl, _⟩ := effect_exchanged_iff.1 head
  have fresh : v.state.retained = none := earlier.retained
  have preparation : Preparation (previews n).input (previews n).settings v.state.retained
    (previews n).stream reads (r, left) := preparation
  rw [fresh] at preparation
  exact ⟨v.state, reads, left, told, fresh, preparation⟩

/-- **A preview draws from what the whitelist is when it asks for it.** While a cycle has applied its
selection and has not restored, that is the selection of the cycle; otherwise it is the original
whitelist, and the preview answers what it answers without a cycle. -/
theorem preview_midway (h : Concurrent w₀ cycle previews T x)
    (answered : (previews n).preview.Path (stepsOf (.preview n) T) r) :
    (.answered .catalog (.ok []) ∈ stepsOf (.preview n) T ∧ r = .error (.choice .emptyCatalog)) ∨
    ∃ o before after, DrawsFrom id (previews n).settings (stepsOf (.preview n) T) o ∧
      T = before ++ (.preview n, .answered .getWhitelist (.ok o.bound)) :: after ∧
      r = (selectPlan (previews n).input.parameters (previews n).input.history
        (o.catalog.filter fun l => o.bound.layerIds.contains l.id) o.plan o.policy
        (previews n).stream).1.mapError .choice ∧
      (∀ selection, Applied cycle w₀ (stepsOf .cycle before) selection →
        o.bound.layerIds = selection.layerIds) ∧
      ((∀ selection, ¬ Applied cycle w₀ (stepsOf .cycle before) selection) →
        o.bound.layerIds = w₀ ∧ Alone w₀ (previews n) o r) := by
  obtain ⟨s, reads, left, told, fresh, preparation⟩ := h.preparation answered
  have granted : ∀ b ∈ reads, Granted (b.move (σ := State)) := fun b hb =>
    h.granted (.preview n) _ (mem_stepsOf.1 (told ▸ .tail _ (List.mem_map_of_mem hb)))
  rcases preparation.granted granted with ⟨empty, failed⟩ | ⟨o, reads', offered, last, drawn⟩
  · exact .inl ⟨told ▸ .tail _ (List.mem_map_of_mem (f := Beat.move) empty), failed⟩
  · refine .inr ?_
    have draws : DrawsFrom id (previews n).settings (stepsOf (.preview n) T) o := by
      refine ⟨s, s, reads, [], by rw [told, List.append_nil], ?_⟩
      show Offered _ s.retained reads o
      rwa [fresh]
    have asked : stepsOf (.preview n) T = (.exchanged s s :: reads'.map Beat.move) ++
        [.answered .getWhitelist (.ok o.bound)] := by
      rw [told, last, List.map_append]
      rfl
    obtain ⟨before, after, rfl, _⟩ := exists_of_stepsOf asked
    obtain ⟨v, earlier, later⟩ := h.of_append
    obtain ⟨_, head, _⟩ := effects_cons_iff.1 later
    -- The whitelist is as it was when the preview asked for it.
    have found : o.bound = ⟨v.layerIds⟩ := by
      generalize o.bound = w at head
      cases head
      rfl
    refine ⟨o, before, after, draws, rfl, ?_, fun selection applied => ?_, fun unapplied => ?_⟩
    · rw [drawn, ← Offer.layers_eq (o := o) rfl]
      rfl
    · rw [found, ← earlier.layerIds_applied applied]
    · have original : o.bound = ⟨w₀⟩ := by rw [found, earlier.layerIds_unapplied unapplied]
      exact ⟨by rw [original], drawn ▸ offered.alone original⟩

end

/-! ### A preview between applying and restoring -/

/-- Another layer than `soleLayer`. -/
def hill400Layer : Layer := ⟨"hill400_warfare", "hill400", .day, .warfare, none⟩

/-- One of the two is asked for, and the word decides which. -/
def pairInquiry (word : UInt64) : Inquiry Rat where
  input := ⟨⟨[⟨"Mid", 80, 1 / 2, ["foy", "hill400"]⟩], [⟨"Day", 100, 1 / 10, [.day]⟩]⟩, 1, .empty, none⟩
  settings := { plan := Plan.empty.set .warfare 1, useRemoteSettings := false }
  stream := ⟨fun _ => word, 0⟩

/-- A cycle with a low word. It selects `soleLayer`. -/
def pairLow : Inquiry Rat := pairInquiry 0

/-- A preview with a high word. It shows the other layer, if it can. -/
def pairHigh : Inquiry Rat := pairInquiry 18000000000000000000

/-- What is offered if the whitelist lists these ids. -/
def pairOffer (ids : List String) : Offer :=
  ⟨[soleLayer, hill400Layer], ⟨ids⟩, Plan.empty.set .warfare 1, {}⟩

def pairIds : List String := [soleLayer.id, hill400Layer.id]

/-- The reads that come to that offer. -/
def pairReads (ids : List String) : List Beat :=
  [.call .catalog .catalog (.ok [soleLayer, hill400Layer]), .call .bound .getWhitelist (.ok ⟨ids⟩)]

theorem offered_pair (word : UInt64) (ids : List String) :
    Offered (pairInquiry word).settings none (pairReads ids) (pairOffer ids) :=
  .told (by decide) (.own rfl) (.read ⟨ids⟩)

theorem drawn_low : ((pairOffer pairIds).draw pairLow.input pairLow.stream).toOption =
    some ⟨[⟨soleLayer, 8000⟩]⟩ := by decide +kernel

theorem drawn_high : ((pairOffer pairIds).draw pairHigh.input pairHigh.stream).toOption =
    some ⟨[⟨hill400Layer, 8000⟩]⟩ := by decide +kernel

theorem drawn_high_narrowed :
    ((pairOffer [soleLayer.id]).draw pairHigh.input pairHigh.stream).toOption =
      some ⟨[⟨soleLayer, 8000⟩]⟩ := by decide +kernel

/-- What the cycle does until it has applied its selection, and afterwards. -/
def pairApplying : List Beat :=
  pairReads pairIds ++ [.call .snapshot .getWhitelist (.ok ⟨pairIds⟩), .poll false,
    .call .apply (.setWhitelist [soleLayer.id]) (.ok ())]

def pairRestoring : List Beat :=
  [.settle false, .call .reset .reset (.ok ()), .settle false,
    .call .restore (.setWhitelist pairIds) (.ok ())]

/-- The state while the cycle is in progress. -/
def pairState : State := { busy := true, started := 1 }

/-- A cycle, and a preview between its applying and its restoring. -/
def pairTrace : List (Actor × Move State) :=
  (Move.exchanged {} pairState :: pairApplying.map Beat.move).map (Actor.cycle, ·) ++
    (Move.exchanged pairState pairState :: (pairReads [soleLayer.id]).map Beat.move).map
      (Actor.preview 0, ·) ++
    (pairRestoring.map Beat.move ++ [Move.exchanged pairState pairState,
      .exchanged pairState pairState, .exchanged pairState { started := 1 }]).map (Actor.cycle, ·)

theorem preview_pair :
    pairHigh.preview.Path (stepsOf (.preview 0) pairTrace) (.ok ⟨[⟨soleLayer, 8000⟩]⟩) := by
  obtain ⟨left, preparation⟩ := (offered_pair _ _).preparation_ok (eq_ok_of_toOption drawn_high_narrowed)
  exact path_preview_iff.2 ⟨pairState, pairReads [soleLayer.id], left, rfl, preparation⟩

theorem cycle_pair : ∃ report, pairLow.cycle.Path (stepsOf .cycle pairTrace) (.ok report) := by
  obtain ⟨left, preparation⟩ := (offered_pair _ _).preparation_ok (eq_ok_of_toOption drawn_low)
  have course : Course pairLow.input pairLow.settings none pairLow.stream
      (pairApplying ++ pairRestoring) ⟨.succeeded ⟨[⟨soleLayer, 8000⟩]⟩, some ⟨pairIds⟩, left⟩ :=
    .swapped preparation (.read ⟨pairIds⟩) (.applied (.finished false)) (.ok ())
  exact ⟨_, path_runExclusive_iff.2
    (.inr ⟨{}, _, _, pairState, pairState, pairState, rfl, course, rfl, rfl⟩)⟩

theorem concurrent_pair :
    Concurrent pairIds pairLow (fun _ => pairHigh) pairTrace ⟨pairIds, { started := 1 }⟩ := by
  have effects : Effects (pairTrace.map Prod.snd) ⟨pairIds, {}⟩ ⟨pairIds, { started := 1 }⟩ := by
    refine .cons (effect_exchanged_iff.2 ⟨rfl, rfl⟩) ?_
    refine .cons (.catalog _ _) ?_
    refine .cons (.got ⟨pairIds, pairState⟩) ?_
    refine .cons (.got ⟨pairIds, pairState⟩) ?_
    refine .cons (.polled _ _) ?_
    refine .cons (.stored _ _ _) ?_
    refine .cons (effect_exchanged_iff.2 ⟨rfl, rfl⟩) ?_
    refine .cons (.catalog _ _) ?_
    refine .cons (.got ⟨[soleLayer.id], pairState⟩) ?_
    refine .cons (.settled _ _) ?_
    refine .cons (.reset _ _) ?_
    refine .cons (.settled _ _) ?_
    refine .cons (.stored _ _ _) ?_
    refine .cons (effect_exchanged_iff.2 ⟨rfl, rfl⟩) ?_
    refine .cons (effect_exchanged_iff.2 ⟨rfl, rfl⟩) ?_
    exact .cons (effect_exchanged_iff.2 ⟨rfl, rfl⟩) (.nil _)
  have granted : ∀ e ∈ pairTrace, Granted e.2 := by
    simp [pairTrace, pairApplying, pairRestoring, pairReads, Beat.move, Granted]
  obtain ⟨report, path⟩ := cycle_pair
  refine ⟨⟨_, path.run⟩, fun n => ?_, ⟨{}, rfl, effects⟩, fun a m mem => granted _ mem⟩
  cases n with
  | zero => exact ⟨_, preview_pair.run⟩
  | succ n => exact ⟨_, .start⟩

/-- What is told of a preview that asks for the whitelist while the selection is applied. -/
theorem preview_midway_pair :
    ∃ o before after, DrawsFrom id pairHigh.settings (stepsOf (.preview 0) pairTrace) o ∧
      pairTrace = before ++ (.preview 0, .answered .getWhitelist (.ok o.bound)) :: after ∧
      (∀ selection, Applied pairLow pairIds (stepsOf .cycle before) selection →
        o.bound.layerIds = selection.layerIds) ∧
      ((∀ selection, ¬ Applied pairLow pairIds (stepsOf .cycle before) selection) →
        Alone pairIds pairHigh o (.ok ⟨[⟨soleLayer, 8000⟩]⟩)) := by
  obtain ⟨_, failed⟩ | ⟨o, before, after, draws, asked, _, applied, unapplied⟩ :=
    preview_midway concurrent_pair preview_pair
  · cases failed
  · exact ⟨o, before, after, draws, asked, applied, fun never => (unapplied never).2⟩

/-- The preview shows the layer that is voted on already. Alone it shows the other one. -/
theorem preview_narrowed :
    Concurrent pairIds pairLow (fun _ => pairHigh) pairTrace ⟨pairIds, { started := 1 }⟩ ∧
      pairHigh.preview.Path (stepsOf (.preview 0) pairTrace) (.ok ⟨[⟨soleLayer, 8000⟩]⟩) ∧
      DrawsFrom id pairHigh.settings (stepsOf (.preview 0) pairTrace) (pairOffer [soleLayer.id]) ∧
      ∀ r, Alone pairIds pairHigh (pairOffer [soleLayer.id]) r ↔ r = .ok ⟨[⟨hill400Layer, 8000⟩]⟩ := by
  have draws : DrawsFrom id pairHigh.settings (stepsOf (.preview 0) pairTrace)
      (pairOffer [soleLayer.id]) :=
    ⟨pairState, pairState, pairReads [soleLayer.id], [], rfl, offered_pair _ _⟩
  have alone : ((pairOffer pairIds).draw pairHigh.input pairHigh.stream).mapError PrepareError.choice =
      .ok ⟨[⟨hill400Layer, 8000⟩]⟩ :=
    congrArg (Except.mapError PrepareError.choice) (eq_ok_of_toOption drawn_high)
  refine ⟨concurrent_pair, preview_pair, draws, fun r => ⟨fun h => h.eq_draw.trans alone, ?_⟩⟩
  rintro rfl
  rw [← alone]
  exact (offered_pair _ pairIds).alone rfl

end MapBallot.Swap
