import MapBallot.Proofs.Service.Session
import MapBallot.Proofs.Swap.Preview

/-!
# `MapBallot.Proofs.Service.Queries` — previews and status queries leave no trace

Operators may ask for a preview or for the status at any time, while rounds are recorded, weightings
replaced and cycles run. This module states that nothing else depends on it: without the queries, in the
same order of the other steps, each of these steps is the same, down to the arguments of the calls and the
service that it finds and leaves. A preview has no share in the random words of the cycles, since these
come from the configured seed.

## Contents

* `Surroundings` — what answers calls, and when a shutdown is asked for;
* `Request`, `Traffic` — requests of all kinds, in any order of their steps;
* `path_preview_iff`, `preview_looks`, `preview_realized` — previews of a service;
* `Traffic.settings`, `Traffic.reseeded`, `Traffic.unique`, `Traffic.without_queries`;
* `PreviewLaw`, `preview_law` — what holds of previews.
-/

namespace MapBallot

open Remote (Call)

variable {σ ρ β : Type}

/-! ## What operations run against -/

/-- What answers calls, and when a shutdown is asked for, as it follows from a state `ρ` of its own. -/
structure Surroundings (ρ : Type) where
  call (w : ρ) (c : Call) : c.Answer × ρ
  poll (w : ρ) : Bool × ρ
  settle (w : ρ) : Bool × ρ

namespace Surroundings

/-- Reading from the remote tool does not change it. -/
def Still (env : Surroundings ρ) : Prop := ∀ w, ∀ c ∈ Swap.previewCalls, (env.call w c).2 = w

/-- What a step does to the shared value and to the surroundings, and what it is told. -/
def Makes (env : Surroundings ρ) : Move σ → σ × ρ → σ × ρ → Prop
  | .answered c answer, (s, w), y => answer = (env.call w c).1 ∧ y = (s, (env.call w c).2)
  | .polled raised, (s, w), y => raised = (env.poll w).1 ∧ y = (s, (env.poll w).2)
  | .settled raised, (s, w), y => raised = (env.settle w).1 ∧ y = (s, (env.settle w).2)
  | .exchanged found left, (s, w), y => found = s ∧ y = (left, w)

variable {env : Surroundings ρ} {m m' : Move σ} {x y y' : σ × ρ}

/-- Where an operation stands determines its next step. -/
theorem Makes.unique {p q q' : Process σ β} (step : p.Step m q) (step' : p.Step m' q')
    (makes : env.Makes m x y) (makes' : env.Makes m' x y') : m = m' ∧ y = y' := by
  cases step <;> cases step' <;> obtain ⟨rfl, rfl⟩ := makes <;> obtain ⟨rfl, rfl⟩ := makes' <;>
    exact ⟨rfl, rfl⟩

/-- A harmless step changes nothing. -/
theorem Makes.eq_of_harmless (still : env.Still) (makes : env.Makes m x y) (harmless : Swap.Harmless m) :
    y = x := by
  obtain ⟨s, w⟩ := x
  cases m with
  | answered c answer =>
    obtain ⟨_, rfl⟩ := makes
    rw [still w c harmless]
  | exchanged found left =>
    obtain ⟨rfl, rfl⟩ := makes
    obtain rfl : left = found := harmless
    rfl
  | polled | settled => exact harmless.elim

end Surroundings

namespace Process

/-- Two operations that begin with the same look at the shared value, and go on in the same way after
what they find, do the same. -/
theorem Run.exchange_congr {change : σ → σ} {next next' : σ → Process σ β} {t : List (Move σ)}
    {r : Process σ β} (run : (Process.exchange change next).Run t r)
    (same : ∀ s s', .exchanged s s' ∈ t → next s = next' s) :
    ∃ r', (Process.exchange change next').Run t r' ∧ (t ≠ [] → r' = r) := by
  induction run with
  | start => exact ⟨_, .start, fun some => absurd rfl some⟩
  | @step q r t m run step ih =>
    obtain ⟨q', run', rest⟩ := ih fun s s' mem => same s s' (List.mem_append_left _ mem)
    by_cases first : t = []
    · subst first
      obtain rfl := run.unique .start
      obtain rfl := run'.unique .start
      cases step with
      | exchange _ _ s =>
        rw [same s (change s) (List.mem_append_right _ (.head _))]
        exact ⟨_, run'.step (.exchange change next' s), fun _ => rfl⟩
    · obtain rfl := rest first
      exact ⟨r, run'.step step, fun _ => rfl⟩

theorem Keeps.comp {τ υ : Type} {f : σ → τ} {p : Process σ β} (h : p.Keeps f) (g : τ → υ) :
    p.Keeps (g ∘ f) := by
  induction p with
  | done value => trivial
  | call c next ih => exact fun answer => ih answer (h answer)
  | poll next ih => exact fun raised => ih raised (h raised)
  | settle millis next ih => exact fun raised => ih raised (h raised)
  | exchange change next ih => exact fun s => ⟨congrArg g (h s).1, ih s (h s).2⟩

end Process

namespace Service

open Process (Keeps Path Run movesOf)
open Swap (Busy Report PrepareError OnlyLooks)

/-! ## Requests -/

/-- What a service may be asked for. -/
inductive Request
  | round (e : RoundStart) (now : Instant)
  /-- A replacement of the weighting, which may fail: from a text, from a file, or given. -/
  | replacement (attempt : Weighting.Generation → Weighting.Attempt)
  | cycle
  | preview (stream : RandomStream)
  | status

/-- What is answered. -/
inductive Response
  | recorded (outcome : RecordOutcome)
  | replaced (outcome : Except (Weighting.Problem Float) Weighting.Generation)
  | cycled (answer : Except Busy (Report Float))
  | previewed (answer : Except PrepareError (Selection Float))
  | told (status : Status)

namespace Request

/-- Previews and status queries. -/
def isQuery : Request → Bool
  | preview _ | status => true
  | _ => false

/-- What is done about a request. The random words `entropy` are for a cycle without a seed. -/
def process (entropy : RandomStream) : Request → Process Service Response
  | round e now =>
    .exchange (fun s => (s.recordRound e now).2) fun s => .done (.recorded (s.recordRound e now).1)
  | replacement attempt =>
    .exchange (fun s => { s with weighting := (attempt s.weighting).current s.weighting })
      fun s => .done (.replaced (attempt s.weighting).outcome)
  | cycle => .cycled <$> runCycle Process.host Process.cell entropy
  | preview stream => .previewed <$> Service.preview Process.host Process.cell stream
  | status => .exchange id fun s => .done (.told s.status)

end Request

/-- A preview of the service looks at what is in force and at the state of the cycles, reads and selects. -/
theorem path_preview_iff {stream : RandomStream} {t : List (Move Service)}
    {answer : Except PrepareError (Selection Float)} :
    Path (Service.preview Process.host Process.cell stream) t answer ↔
      ∃ s x reads rest, t = .exchanged s s :: .exchanged x x :: reads.map Swap.Beat.move ∧
        Swap.Preparation s.input s.settings.swap x.swap.retained stream reads (answer, rest) := by
  unfold Service.preview swapCell
  rw [Process.cell_focus, Process.path_bind_iff]
  constructor
  · rintro ⟨_, _, s, rfl, look, shown⟩
    obtain ⟨_, rfl, rfl⟩ := Process.path_partRead_iff.1 look
    obtain ⟨x, reads, rest, rfl, preparation⟩ := Swap.path_preview_iff.1 shown
    exact ⟨_, x, reads, rest, rfl, preparation⟩
  · rintro ⟨s, x, reads, rest, rfl, preparation⟩
    exact ⟨[_], _, s, rfl, Process.path_partRead_iff.2 ⟨s, rfl, rfl⟩,
      Swap.path_preview_iff.2 ⟨x, reads, rest, rfl, preparation⟩⟩

/-- A preview of the service only looks, too. -/
theorem preview_looks {stream : RandomStream} {t : List (Move Service)}
    {answer : Except PrepareError (Selection Float)}
    (path : Path (Service.preview Process.host Process.cell stream) t answer) : OnlyLooks t := by
  obtain ⟨s, x, reads, rest, rfl, preparation⟩ := path_preview_iff.1 path
  exact (Swap.onlyLooks_reads preparation x).look s

/-- **A cycle of the service does what a preview has shown**, where both find the same in force and the
same state, take the same random words, and are told the same. -/
theorem preview_realized {stream entropy : RandomStream} {t u : List (Move Service)}
    {shown : Except PrepareError (Selection Float)} {answer : Except Busy (Report Float)}
    (path : Path (Service.preview Process.host Process.cell stream) t shown)
    (run : Path (runCycle Process.host Process.cell entropy) u answer) :
    ∃ s s' x x' y reads steps, t = .exchanged s s :: .exchanged x x :: reads ∧
      u = .exchanged s' s' :: .exchanged x' y :: steps ∧
      ∀ f, s.input = s'.input → s.settings.swap = s'.settings.swap → x.swap = x'.swap →
        stream = s'.cycleStream entropy → AnsweredBy f [] t → AnsweredBy f [] u →
        Swap.Realizes x'.swap u shown answer := by
  obtain ⟨s, x, reads, rest, rfl, preparation⟩ := path_preview_iff.1 path
  obtain ⟨s', u, rfl, cycle⟩ := path_runCycle_iff.1 run
  rcases path_cycleWith_cases cycle with
    ⟨x', busy, rfl, rfl⟩ | ⟨x', bs, ending, kept, seen, left, y, report, _, course, rfl, rfl, rfl⟩
  · exact ⟨s, s', x, x', _, _, _, rfl, rfl, fun _ _ _ _ _ _ _ => .refused shown busy rfl⟩
  · refine ⟨s, s', x, x', _, _, _, rfl, rfl, fun f input settings state words told told' => ?_⟩
    rw [input, settings, state, words] at preparation
    exact ((preparation.realizes course rfl x'.swap rfl told told').exchanged x' _).exchanged s' s'

/-- Every step of a query is harmless. -/
theorem Request.harmless {request : Request} (query : request.isQuery = true) {entropy : RandomStream}
    {t : List (Move Service)} {rest : Process Service Response}
    (run : (request.process entropy).Run t rest) : ∀ m ∈ t, Swap.Harmless m := by
  intro m mem
  have : Inhabited Service := ⟨⟨{}, .builtin, .withRetention 0, {}, .none⟩⟩
  obtain ⟨u, answer, path⟩ := run.exists_path
  have later : m ∈ t ++ u := List.mem_append_left u mem
  cases request with
  | round | replacement | cycle => cases query
  | preview stream =>
    obtain ⟨shown, path, _⟩ := Process.path_map_iff.1 path
    exact (preview_looks path).harmless m later
  | status =>
    obtain ⟨s, rest, whole, last⟩ := Process.path_exchange_iff.1 path
    obtain ⟨rfl, _⟩ := Process.path_done_iff.1 last
    rw [whole, List.mem_singleton] at later
    rw [later]
    rfl

/-- No request changes the settings. -/
theorem Request.keeps (entropy : RandomStream) (request : Request) :
    (request.process entropy).Keeps settings := by
  cases request with
  | round e now => exact fun s => ⟨rfl, trivial⟩
  | replacement attempt => exact fun s => ⟨rfl, trivial⟩
  | cycle =>
    refine Process.keeps_bind (Process.keeps_bind Process.keeps_partRead fun s => ?_) fun _ => trivial
    exact (keeps_cycleWith s entropy).comp Prod.snd
  | preview stream =>
    refine Process.keeps_bind (Process.keeps_bind Process.keeps_partRead fun s => ?_) fun _ => trivial
    refine Process.keeps_bind Process.keeps_partRead fun found => ?_
    exact Process.keeps_bind (Process.keeps_runOn _) fun _ => trivial
  | status => exact fun s => ⟨rfl, trivial⟩

/-! ## Requests of all kinds -/

/-- Requests, each as far as it has come, in any order of their steps. -/
inductive Traffic (env : Surroundings ρ) (requests : Nat → Request) (entropy : Nat → RandomStream)
    (start : Service × ρ) : List (Nat × Move Service) → Service × ρ → Prop
  | start : Traffic env requests entropy start [] start
  | step {T : List (Nat × Move Service)} {x y : Service × ρ} {a : Nat} {m : Move Service}
      {rest : Process Service Response} (earlier : Traffic env requests entropy start T x)
      (run : ((requests a).process (entropy a)).Run (movesOf a T ++ [m]) rest)
      (makes : env.Makes m x y) : Traffic env requests entropy start (T ++ [(a, m)]) y

variable {env : Surroundings ρ} {requests : Nat → Request} {entropy entropy' : Nat → RandomStream}
  {start x y : Service × ρ} {T U : List (Nat × Move Service)}

/-- The settings are those of the start at any time. -/
theorem Traffic.settings (h : Traffic env requests entropy start T x) :
    x.1.settings = start.1.settings ∧
      ∀ a s s', (a, .exchanged s s') ∈ T → s.settings = start.1.settings := by
  induction h with
  | start => exact ⟨rfl, fun _ _ _ mem => absurd mem List.not_mem_nil⟩
  | @step T x y a m rest _ run makes ih =>
    obtain ⟨now, before⟩ := ih
    obtain ⟨q, run, step⟩ := run.concat
    have kept := (Request.keeps (entropy a) (requests a)).run run
    obtain ⟨s, w⟩ := x
    cases m with
    | answered | polled | settled =>
      obtain ⟨_, rfl⟩ := makes
      refine ⟨now, fun b s s' mem => ?_⟩
      simp only [List.mem_append, List.mem_singleton, Prod.mk.injEq, reduceCtorEq, and_false, or_false]
        at mem
      exact before b s s' mem
    | exchanged found left =>
      obtain ⟨rfl, rfl⟩ := makes
      refine ⟨(kept.exchanged step).trans now, fun b s s' mem => ?_⟩
      rcases List.mem_append.1 mem with earlier | last
      · exact before b s s' earlier
      · obtain ⟨_, same⟩ := Prod.mk.inj (List.mem_singleton.1 last)
        obtain ⟨rfl, _⟩ := Move.exchanged.inj same
        exact now

/-- A request does the same with other random words where cycles have a seed. -/
theorem Request.run_reseeded {request : Request} {stream : RandomStream}
    {t : List (Move Service)} {rest : Process Service Response}
    (run : (request.process stream).Run t rest)
    (seeded : ∀ s s', .exchanged s s' ∈ t → s.settings.seed ≠ none) (stream' : RandomStream) :
    ∃ rest', (request.process stream').Run t rest' ∧ (t ≠ [] → rest' = rest) := by
  cases request with
  | round | replacement | preview | status => exact ⟨rest, run, fun _ => rfl⟩
  | cycle =>
    refine Process.Run.exchange_congr run fun s s' mem => ?_
    obtain ⟨seed, found⟩ := Option.ne_none_iff_exists'.1 (seeded s s' mem)
    have same : s.cycleStream stream = s.cycleStream stream' := by
      unfold cycleStream
      rw [found]
    have begun : s.cycleWith Process.host Process.cell stream =
        s.cycleWith Process.host Process.cell stream' := by
      unfold cycleWith
      rw [same]
    exact congrArg (fun p => Process.andThen p (Process.done ∘ Response.cycled)) begun

/-- So it comes to the same answer. -/
theorem Request.path_reseeded {request : Request} {stream stream' : RandomStream}
    {t : List (Move Service)} {answer : Response} (path : (request.process stream).Path t answer)
    (seeded : ∀ s s', .exchanged s s' ∈ t → s.settings.seed ≠ none) :
    (request.process stream').Path t answer := by
  obtain ⟨rest, run, same⟩ := Request.run_reseeded path.run seeded stream'
  cases t with
  | nil => cases request <;> cases path
  | cons m t =>
    obtain rfl := same (List.cons_ne_nil m t)
    exact run.path

theorem Traffic.seeded (h : Traffic env requests entropy start T x)
    (seed : start.1.settings.seed ≠ none) (a : Nat) :
    ∀ s s', .exchanged s s' ∈ movesOf a T → s.settings.seed ≠ none := by
  intro s s' mem
  rw [h.settings.2 a s s' (Process.mem_movesOf.1 mem)]
  exact seed

/-- The random words for cycles without a seed do not matter where there is one. -/
theorem Traffic.reseeded (h : Traffic env requests entropy start T x)
    (seed : start.1.settings.seed ≠ none) : Traffic env requests entropy' start T x := by
  induction h with
  | start => exact .start
  | @step T x y a m rest earlier run makes ih =>
    have seeded := (earlier.step run makes).seeded seed a
    rw [Process.movesOf_concat_self] at seeded
    obtain ⟨_, run, _⟩ := Request.run_reseeded run seeded (entropy' a)
    exact ih.step run makes

/-- The order of the steps determines what they are. -/
theorem Traffic.unique (h : Traffic env requests entropy start T x)
    (h' : Traffic env requests entropy start U y) (order : T.map Prod.fst = U.map Prod.fst) :
    T = U ∧ x = y := by
  induction h generalizing U y with
  | start =>
    obtain rfl := List.map_eq_nil_iff.1 order.symm
    generalize none : ([] : List (Nat × Move Service)) = U at h'
    cases h' with
    | start => exact ⟨rfl, rfl⟩
    | step => simp at none
  | @step T x z a m rest _ run makes ih =>
    cases h' with
    | start => simp at order
    | @step U x' y b m' rest' earlier' run' makes' =>
      rw [List.map_append, List.map_append] at order
      -- The earlier steps are the same, so the request stands where it stood, and its program has one step.
      obtain ⟨before, last⟩ := List.append_inj' order rfl
      obtain rfl : a = b := List.singleton_inj.1 last
      obtain ⟨rfl, rfl⟩ := ih earlier' before
      obtain ⟨q, run, step⟩ := run.concat
      obtain ⟨q', run', step'⟩ := run'.concat
      obtain rfl := run.unique run'
      obtain ⟨rfl, rfl⟩ := makes.unique step step' makes'
      exact ⟨rfl, rfl⟩

/-- The steps of all requests but previews and status queries. -/
def withoutQueries (requests : Nat → Request) (T : List (Nat × Move Service)) :
    List (Nat × Move Service) :=
  T.filter fun e => !(requests e.1).isQuery

theorem movesOf_withoutQueries {a : Nat} (h : (requests a).isQuery = false) :
    movesOf a (withoutQueries requests T) = movesOf a T := by
  induction T with
  | nil => rfl
  | cons e T ih =>
    obtain ⟨b, m⟩ := e
    unfold withoutQueries at ih ⊢
    by_cases query : (requests b).isQuery = true
    · have apart : b ≠ a := by
        rintro rfl
        exact absurd (query.symm.trans h) (by decide)
      rw [List.filter_cons_of_neg (by simp [query]), Process.movesOf_cons_of_ne apart, ih]
    · rw [List.filter_cons_of_pos (by simpa using query)]
      by_cases own : b = a
      · subst own
        rw [Process.movesOf_cons_self, Process.movesOf_cons_self, ih]
      · rw [Process.movesOf_cons_of_ne own, Process.movesOf_cons_of_ne own, ih]

/-- **Queries can be left out**: what remains is made in the same way. -/
theorem Traffic.without_queries (still : env.Still) (h : Traffic env requests entropy start T x) :
    Traffic env requests entropy start (withoutQueries requests T) x := by
  induction h with
  | start => exact .start
  | @step T x y a m rest _ run makes ih =>
    cases query : (requests a).isQuery with
    | true =>
      -- A query's step leaves service and surroundings alone, so it can be skipped.
      have harmless := Request.harmless query run m (List.mem_append_right _ (.head _))
      obtain rfl := makes.eq_of_harmless still harmless
      rwa [withoutQueries, List.filter_append, List.filter_cons_of_neg (by simp [query]),
        List.filter_nil, List.append_nil]
    | false =>
      rw [← movesOf_withoutQueries query] at run
      rw [withoutQueries, List.filter_append, List.filter_cons_of_pos (by simp [query]),
        List.filter_nil]
      exact ih.step run makes

/-! ## The law -/

/-- What holds of requests whose queries are left out. -/
structure Undisturbed (env : Surroundings ρ) (requests : Nat → Request) (entropy : Nat → RandomStream)
    (start : Service × ρ) (T : List (Nat × Move Service)) (x : Service × ρ) : Prop where
  /-- The other steps are made in the same way, -/
  alone (entropy' : Nat → RandomStream) :
    Traffic env requests entropy' start (withoutQueries requests T) x
  /-- in this order in no other way, -/
  only {entropy' : Nat → RandomStream} {U : List (Nat × Move Service)} {y : Service × ρ} :
    Traffic env requests entropy' start U y →
      U.map Prod.fst = (withoutQueries requests T).map Prod.fst →
      U = withoutQueries requests T ∧ y = x
  /-- and come to the same answers. -/
  answered (entropy' : Nat → RandomStream) {a : Nat} (turn : (requests a).isQuery = false)
    (answer : Response) :
    ((requests a).process (entropy a)).Path (movesOf a T) answer ↔
      ((requests a).process (entropy' a)).Path (movesOf a (withoutQueries requests T)) answer

theorem Traffic.undisturbed (still : env.Still) (seed : start.1.settings.seed ≠ none)
    (h : Traffic env requests entropy start T x) : Undisturbed env requests entropy start T x where
  alone _ := (h.without_queries still).reseeded seed
  only other order :=
    (other.reseeded seed).unique (h.without_queries still) order
  answered entropy' a turn answer := by
    rw [movesOf_withoutQueries turn]
    exact ⟨fun path => Request.path_reseeded path (h.seeded seed a),
      fun path => Request.path_reseeded path (h.seeded seed a)⟩

/-- What holds of previews. -/
structure PreviewLaw (α : Type) [Scalar α] : Prop where
  /-- A preview looks at the state, reads and selects, and answers what that came to. -/
  shape {σ : Type} {part : σ → Swap.State} {replace : σ → Swap.State → σ} {input : Swap.Input α}
    {settings : Swap.Settings} {stream : RandomStream} {t : List (Move σ)}
    {r : Except PrepareError (Selection α)} :
    Path (Swap.preview Process.host (Process.partCell part replace) input settings stream) t r ↔
      ∃ s reads rest, t = .exchanged s s :: reads.map Swap.Beat.move ∧
        Swap.Preparation input settings (part s).retained stream reads (r, rest)
  /-- A preview of the service looks at what is in force before. -/
  serviceShape {stream : RandomStream} {t : List (Move Service)}
    {answer : Except PrepareError (Selection Float)} :
    Path (Service.preview Process.host Process.cell stream) t answer ↔
      ∃ s x reads rest, t = .exchanged s s :: .exchanged x x :: reads.map Swap.Beat.move ∧
        Swap.Preparation s.input s.settings.swap x.swap.retained stream reads (answer, rest)
  /-- Whatever it finds and is told, a preview comes to an answer. -/
  answers {σ : Type} {part : σ → Swap.State} {replace : σ → Swap.State → σ} (input : Swap.Input α)
    (settings : Swap.Settings) (stream : RandomStream) (s : σ) (f : List Call → (c : Call) → c.Answer) :
    ∃ reads r, Path (Swap.preview Process.host (Process.partCell part replace) input settings stream)
      (.exchanged s s :: reads) r ∧ AnsweredBy f [] reads
  serviceAnswers (stream : RandomStream) (s x : Service) (f : List Call → (c : Call) → c.Answer) :
    ∃ reads answer, Path (Service.preview Process.host Process.cell stream)
      (.exchanged s s :: .exchanged x x :: reads) answer ∧ AnsweredBy f [] reads
  /-- A preview reads the catalog, the settings and the whitelist, each at most once and in this order, and
  leaves the state as it is. -/
  reads {σ : Type} {part : σ → Swap.State} {replace : σ → Swap.State → σ} {input : Swap.Input α}
    {settings : Swap.Settings} {stream : RandomStream} {t : List (Move σ)}
    {r : Except PrepareError (Selection α)} :
    Path (Swap.preview Process.host (Process.partCell part replace) input settings stream) t r →
      OnlyLooks t
  /-- A preview of the service leaves the whole service as it is. -/
  looks {stream : RandomStream} {t : List (Move Service)}
    {answer : Except PrepareError (Selection Float)} :
    Path (Service.preview Process.host Process.cell stream) t answer → OnlyLooks t
  /-- A cycle that finds the same state and is told the same does what the preview has shown. -/
  realized {σ : Type} {part : σ → Swap.State} {replace : σ → Swap.State → σ} {input : Swap.Input α}
    {settings : Swap.Settings} {stream : RandomStream} {t u : List (Move σ)}
    {r : Except PrepareError (Selection α)} {answer : Except Busy (Report α)} :
    Path (Swap.preview Process.host (Process.partCell part replace) input settings stream) t r →
      Path (Swap.runExclusive Process.host (Process.partCell part replace) input settings stream) u
        answer →
      ∃ s x y reads steps, t = .exchanged s s :: reads ∧ u = .exchanged x y :: steps ∧
        ∀ f, part s = part x → AnsweredBy f [] t → AnsweredBy f [] u →
          Swap.Realizes (part x) u r answer
  /-- So does a cycle of the service that finds the same in force as well, and takes the same random
  words. -/
  serviceRealized {stream entropy : RandomStream} {t u : List (Move Service)}
    {shown : Except PrepareError (Selection Float)} {answer : Except Busy (Report Float)} :
    Path (Service.preview Process.host Process.cell stream) t shown →
      Path (runCycle Process.host Process.cell entropy) u answer →
      ∃ s s' x x' y reads steps, t = .exchanged s s :: .exchanged x x :: reads ∧
        u = .exchanged s' s' :: .exchanged x' y :: steps ∧
        ∀ f, s.input = s'.input → s.settings.swap = s'.settings.swap → x.swap = x'.swap →
          stream = s'.cycleStream entropy → AnsweredBy f [] t → AnsweredBy f [] u →
          Swap.Realizes x'.swap u shown answer
  /-- Rounds, replacements and cycles do not depend on the queries among them, as long as cycles have a
  seed and reading does not change the remote tool. -/
  undisturbed {ρ : Type} {env : Surroundings ρ} {requests : Nat → Request}
    {entropy : Nat → RandomStream} {start x : Service × ρ} {T : List (Nat × Move Service)} :
    env.Still → start.1.settings.seed ≠ none → Traffic env requests entropy start T x →
      Undisturbed env requests entropy start T x

/-- **A preview shows what a cycle would do, and leaves no trace.** -/
theorem preview_law (α : Type) [Scalar α] : PreviewLaw α where
  shape := Swap.path_preview_iff
  serviceShape := path_preview_iff
  answers input settings stream s f := by
    obtain ⟨reads, r, rest, preparation, told⟩ := Swap.exists_preparation input settings _ stream f s
    exact ⟨_, r, Swap.path_preview_iff.2 ⟨s, reads, rest, rfl, preparation⟩, told⟩
  serviceAnswers stream s x f := by
    obtain ⟨reads, r, rest, preparation, told⟩ :=
      Swap.exists_preparation s.input s.settings.swap x.swap.retained stream f s
    exact ⟨_, r, path_preview_iff.2 ⟨s, x, reads, rest, rfl, preparation⟩, told⟩
  reads := Swap.preview_reads
  looks := preview_looks
  realized := Swap.preview_realized
  serviceRealized := preview_realized
  undisturbed := Traffic.undisturbed

/-! ### A preview during a cycle that cannot read the catalog, and one before a cycle -/

/-- A remote tool that answers nothing. -/
def mute : Surroundings Unit where
  call _ _ := (.error timedOut, ())
  poll _ := (false, ())
  settle _ := (false, ())

/-- A service with a seed, as it is started. -/
def seededService : Service where
  settings := { seed := some 7 }
  weighting := .builtin
  tracker := .withRetention 3

/-- A round is recorded, and a cycle and a preview are asked for. -/
def mixedRequests : Nat → Request
  | 0 => .round ⟨"foy", .day, 7, none⟩ .epoch
  | 1 => .cycle
  | _ => .preview zeros

/-- The service after the round. -/
def recordedService : Service := (seededService.recordRound ⟨"foy", .day, 7, none⟩ .epoch).2

/-- The service while the cycle is in progress. -/
def enteredService : Service := { recordedService with swap := recordedService.swap.entered }

/-- The preview is asked for first, and goes on after the round was recorded and the cycle has entered. -/
def mixedTrace : List (Nat × Move Service) :=
  [(2, .exchanged seededService seededService), (0, .exchanged seededService recordedService),
    (1, .exchanged recordedService recordedService), (1, .exchanged recordedService enteredService),
    (2, .exchanged enteredService enteredService), (2, .answered .catalog (.error timedOut)),
    (1, .answered .catalog (.error timedOut))]

theorem traffic_mixed (entropy : Nat → RandomStream) :
    Traffic mute mixedRequests entropy (seededService, ()) mixedTrace (enteredService, ()) := by
  have shown₁ := (Process.Run.start (p := (mixedRequests 2).process (entropy 2))).step
    (.exchange _ _ seededService)
  have shown₂ := shown₁.step (.exchange _ _ enteredService)
  have shown₃ := shown₂.step (.call .catalog _ (.error timedOut))
  have recorded := (Process.Run.start (p := (mixedRequests 0).process (entropy 0))).step
    (.exchange _ _ seededService)
  have cycled₁ := (Process.Run.start (p := (mixedRequests 1).process (entropy 1))).step
    (.exchange _ _ recordedService)
  have cycled₂ := cycled₁.step (.exchange _ _ recordedService)
  have cycled₃ := cycled₂.step (.call .catalog _ (.error timedOut))
  exact Traffic.start.step shown₁ ⟨rfl, rfl⟩ |>.step recorded ⟨rfl, rfl⟩ |>.step cycled₁ ⟨rfl, rfl⟩
    |>.step cycled₂ ⟨rfl, rfl⟩ |>.step shown₂ ⟨rfl, rfl⟩ |>.step shown₃ ⟨rfl, rfl⟩
    |>.step cycled₃ ⟨rfl, rfl⟩

/-- A remote tool with these layers and this whitelist, whatever was called before. -/
def answersWith (catalog : List Layer) (ids : List String) (_ : List Call) : (c : Call) → c.Answer
  | .catalog => .ok catalog
  | .settings => .error timedOut
  | .getWhitelist => .ok ⟨ids⟩
  | .setWhitelist _ => .ok ()
  | .reset => .ok ()

/-- A preview of two layers. -/
theorem preview_pairLow : Swap.pairLow.preview.Path
    (.exchanged {} {} :: (Swap.pairReads Swap.pairIds).map Swap.Beat.move)
    (.ok ⟨[⟨Swap.soleLayer, 8000⟩]⟩) := by
  obtain ⟨left, preparation⟩ := (Swap.offered_pair _ _).preparation_ok
    (Swap.eq_ok_of_toOption Swap.drawn_low)
  exact Swap.path_preview_iff.2 ⟨{}, Swap.pairReads Swap.pairIds, left, rfl, preparation⟩

/-- A service that offers three layers, and draws by a seed. -/
def seededThree : Service := { threeService with settings := { swap := threeSettings, seed := some 1 } }

/-- The random words of its cycles. -/
def seededWords : RandomStream := .ofSeed (cycleSeed 1 none)

theorem draws_seeded : Draws seededThree.input none seededWords ["kursk_warfare"] :=
  ⟨by simp, by decide +kernel⟩

/-- What a preview shows, the cycle puts on the whitelist. What a round and a cycle do is as without a
preview among them. -/
theorem preview_law_mixed :
    (∃ report, Swap.pairLow.preview.Path
        (.exchanged {} {} :: (Swap.pairReads Swap.pairIds).map Swap.Beat.move)
        (.ok ⟨[⟨Swap.soleLayer, 8000⟩]⟩) ∧
      Swap.pairLow.cycle.Path (Swap.stepsOf .cycle Swap.pairTrace) (.ok report) ∧
      Swap.Realizes {} (Swap.stepsOf .cycle Swap.pairTrace)
        (.ok ⟨[⟨Swap.soleLayer, 8000⟩]⟩ : Except PrepareError (Selection Rat)) (.ok report)) ∧
    (∃ reads u selection report,
      Path (Service.preview Process.host Process.cell seededWords)
        (.exchanged seededThree seededThree :: .exchanged seededThree seededThree :: reads)
        (.ok selection) ∧
      Path (runCycle Process.host Process.cell zeros) u (.ok report) ∧
      Swap.Realizes {} u (.ok selection) (.ok report) ∧
      selection.layerIds = ["kursk_warfare"] ∧ Swap.puts u = [["kursk_warfare"], threeIds]) ∧
    Undisturbed mute mixedRequests (fun _ => zeros) (seededService, ()) mixedTrace
      (enteredService, ()) := by
  refine ⟨?_, ?_, (preview_law Rat).undisturbed (fun _ _ _ => rfl) (by decide) (traffic_mixed _)⟩
  · obtain ⟨report, run⟩ := Swap.cycle_pair
    obtain ⟨s, x, y, reads, steps, look, enter, realizes⟩ :=
      (preview_law Rat).realized preview_pairLow run
    cases look
    cases enter
    have realized := realizes (answersWith [Swap.soleLayer, Swap.hill400Layer] Swap.pairIds) rfl
      ⟨rfl, rfl, trivial⟩ ⟨rfl, rfl, rfl, rfl, rfl, rfl, trivial⟩
    exact ⟨report, preview_pairLow, run, realized⟩
  · obtain ⟨shown, left, ids, preparation⟩ := draws_seeded.preparation
    obtain ⟨selection, left', ids', course⟩ := draws_seeded.course (.ok ())
    have preview := path_preview_iff.2 ⟨seededThree, seededThree, _, left, rfl, preparation⟩
    have idle : seededThree.swap.busy = false := rfl
    have cycle := path_cycleSteps zeros idle course
    have run := path_runCycle_iff.2 ⟨seededThree, _, rfl, cycle⟩
    obtain ⟨s, s', x, x', y, reads, steps, look, enter, realizes⟩ :=
      (preview_law Rat).serviceRealized preview run
    cases look
    cases enter
    -- The seed gives the cycle the words that the preview was given.
    have realized := realizes (answersWith threeLayers threeIds) rfl rfl rfl rfl
      ⟨rfl, rfl, trivial⟩ ⟨rfl, rfl, rfl, rfl, rfl, rfl, trivial⟩
    exact ⟨_, _, shown, _, preview, run, realized, ids, rfl⟩

end Service

end MapBallot
