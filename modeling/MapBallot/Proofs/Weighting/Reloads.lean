import Mathlib.Logic.Function.Basic
import MapBallot.Proofs.Weighting.Runs

/-!
# `MapBallot.Proofs.Weighting.Reloads` — several reloads at a time

A reload looks up the source, reads the file and installs what it read. Nothing holds these steps together:
the operator and the watcher can reload at the same time, and the file can be rewritten between any two
steps. Then the order of the installs decides, and not the order of the reads: whoever read an older
document and installs last puts it in force again, although someone had installed the newer one already.

## Contents

* `Stage`, `System`, `Deed`, `Step`, `Run` — callers, what each is about, and all orders of their steps;
* `run_reload` — what a call does if nobody else does anything meanwhile;
* `System.Rooted`, `Run.read_of_parsed` — what holds in every run;
* `Latest`, `Since` — what holds after a rewrite, kept by every step;
* `reload_order`, `reload_order_settled` — the last install decides;
* `reload_overtaken` — an older document that comes back.
-/

namespace MapBallot.Weighting

open Files (Reader)

/-! ## Callers and their steps -/

/-- What a call is about. -/
inductive Stage
  | waiting
  /-- The source was looked up. -/
  | located (path : String)
  /-- The file was read and accepted. -/
  | parsed (path : String) (parameters : Parameters Float)

/-- The callers, with the store and the files that they share. -/
structure System (ι : Type) where
  generation : Generation
  files : Reader
  stage : ι → Stage

/-- What was done, and by whom. -/
inductive Deed (ι : Type)
  | located (i : ι)
  | skipped (i : ι)
  | read (i : ι)
  | installed (i : ι)
  | rewritten (text : String)

variable {ι : Type} [DecidableEq ι]

namespace System

/-- A caller proceeds. -/
def proceed (s : System ι) (i : ι) (stage : Stage) : System ι :=
  { s with stage := Function.update s.stage i stage }

/-- A caller installs what it read. -/
def install (s : System ι) (i : ι) (path : String) (parameters : Parameters Float) : System ι :=
  { s.proceed i .waiting with generation := s.generation.install parameters (some path) }

/-- A file is rewritten. -/
def rewrite (s : System ι) (path text : String) : System ι :=
  { s with files := Function.update s.files path (.ok text) }

/-- No call is in progress. -/
def Idle (s : System ι) : Prop := ∀ i, s.stage i = .waiting

/-- Whatever was read is installed. -/
def Settled (s : System ι) : Prop := ∀ i path parameters, s.stage i ≠ .parsed path parameters

end System

/-- One step of a reload, or one rewrite of the source by a valid document. -/
inductive Step : System ι → Deed ι → System ι → Prop
  | locate {s : System ι} {i : ι} {path : String} (stage : s.stage i = .waiting)
      (source : s.generation.source = some path) : Step s (.located i) (s.proceed i (.located path))
  | skip {s : System ι} {i : ι} (stage : s.stage i = .waiting)
      (unsourced : s.generation.source = none) : Step s (.skipped i) s
  | accept {s : System ι} {i : ι} {path : String} {parameters : Parameters Float}
      (stage : s.stage i = .located path) (accepted : Parameters.ofFile s.files path = .ok parameters) :
      Step s (.read i) (s.proceed i (.parsed path parameters))
  | refuse {s : System ι} {i : ι} {path : String} {problem : Problem Float}
      (stage : s.stage i = .located path) (refused : Parameters.ofFile s.files path = .error problem) :
      Step s (.read i) (s.proceed i .waiting)
  | install {s : System ι} {i : ι} {path : String} {parameters : Parameters Float}
      (stage : s.stage i = .parsed path parameters) :
      Step s (.installed i) (s.install i path parameters)
  | rewrite {s : System ι} {path text : String} {parameters : Parameters Float}
      (source : s.generation.source = some path) (valid : Parameters.ofText text = .ok parameters) :
      Step s (.rewritten text) (s.rewrite path text)

/-- Steps one after the other, and where they lead. -/
inductive Run (s : System ι) : List (Deed ι) → System ι → Prop
  | nil : Run s [] s
  | snoc {ds : List (Deed ι)} {d : Deed ι} {t u : System ι} (run : Run s ds t) (step : Step t d u) :
      Run s (ds ++ [d]) u

variable {s t u v : System ι} {d : Deed ι} {ds before after : List (Deed ι)} {i : ι}
  {path text : String} {p : Parameters Float}

namespace System

theorem proceed_stage (s : System ι) (i j : ι) (stage : Stage) :
    (s.proceed i stage).stage j = if j = i then stage else s.stage j := Function.update_apply ..

theorem install_stage (s : System ι) (i j : ι) (path : String) (parameters : Parameters Float) :
    (s.install i path parameters).stage j = if j = i then .waiting else s.stage j :=
  s.proceed_stage i j .waiting

@[simp]
theorem proceed_proceed (s : System ι) (i : ι) (first second : Stage) :
    (s.proceed i first).proceed i second = s.proceed i second := by
  unfold proceed
  rw [Function.update_idem]

theorem proceed_stage_self (s : System ι) (i : ι) (stage : Stage) :
    (s.proceed i stage).stage i = stage := Function.update_self ..

theorem proceed_self {stage : Stage} (at_stage : s.stage i = stage) : s.proceed i stage = s := by
  unfold proceed
  rw [← at_stage, Function.update_eq_self]

end System

/-! ## One call alone -/

theorem run_locate (idle : s.stage i = .waiting) (source : s.generation.source = some path) :
    Run s [.located i] (s.proceed i (.located path)) := Run.nil.snoc (.locate idle source)

theorem run_read (idle : s.stage i = .waiting) (source : s.generation.source = some path)
    (accepted : Parameters.ofFile s.files path = .ok p) :
    Run s [.located i, .read i] (s.proceed i (.parsed path p)) := by
  rw [← s.proceed_proceed i (.located path)]
  exact (run_locate idle source).snoc (.accept (s.proceed_stage_self i _) accepted)

/-- **A call that nobody comes between does what `reload` does.** -/
theorem run_reload (idle : s.stage i = .waiting) :
    ∃ ds, (∀ d ∈ ds, d ∈ [.located i, .skipped i, .read i, .installed i]) ∧
      Run s ds { s with generation := (s.generation.reload s.files).current s.generation } := by
  unfold Generation.reload
  cases source : s.generation.source with
  | none => exact ⟨[.skipped i], by simp, Run.nil.snoc (.skip idle source)⟩
  | some path =>
    simp only [Generation.reloadFrom]
    cases read : Parameters.ofFile s.files path with
    | ok parameters =>
      have installed := (run_read idle source read).snoc (.install (s.proceed_stage_self i _))
      rw [System.install, System.proceed_proceed, System.proceed_self idle] at installed
      exact ⟨[.located i, .read i, .installed i], by simp, installed⟩
    | error problem =>
      have refused := (run_locate idle source).snoc (.refuse (s.proceed_stage_self i _) read)
      rw [System.proceed_proceed, System.proceed_self idle] at refused
      exact ⟨[.located i, .read i], by simp, refused⟩

/-! ## What every run keeps -/

/-- A caller that has read a document is the one that proceeds, or was so before. -/
theorem System.parsed_of_proceed {j : ι} {stage : Stage}
    (parsed : (s.proceed j stage).stage i = .parsed path p) :
    (i = j ∧ stage = .parsed path p) ∨ (j ≠ i ∧ s.stage i = .parsed path p) := by
  rw [System.proceed_stage] at parsed
  split at parsed
  case isTrue same => exact .inl ⟨same, parsed⟩
  case isFalse other => exact .inr ⟨Ne.symm other, parsed⟩

/-- Who has read a document read it just now, or had read it before and does not act. -/
theorem Step.parsed (step : Step s d t) (parsed : t.stage i = .parsed path p) :
    (d = .read i ∧ s.stage i = .located path ∧ Parameters.ofFile s.files path = .ok p) ∨
      (d ≠ .read i ∧ d ≠ .installed i ∧ s.stage i = .parsed path p) := by
  cases step with
  | skip | rewrite => exact .inr ⟨by simp, by simp, parsed⟩
  | locate =>
    rcases System.parsed_of_proceed parsed with ⟨_, ⟨⟩⟩ | ⟨_, before⟩
    exact .inr ⟨by simp, by simp, before⟩
  | accept stage accepted =>
    rcases System.parsed_of_proceed parsed with ⟨rfl, made⟩ | ⟨other, before⟩
    · cases made
      exact .inl ⟨rfl, stage, accepted⟩
    · exact .inr ⟨by simp [other], by simp, before⟩
  | refuse =>
    rcases System.parsed_of_proceed parsed with ⟨_, ⟨⟩⟩ | ⟨other, before⟩
    exact .inr ⟨by simp [other], by simp, before⟩
  | install =>
    rcases System.parsed_of_proceed (s := s) parsed with ⟨_, ⟨⟩⟩ | ⟨other, before⟩
    exact .inr ⟨by simp, by simp [other], before⟩

/-- The source is the file that calls in progress are about. -/
def Stage.path? : Stage → Option String
  | .waiting => none
  | .located path | .parsed path _ => some path

/-- Calls in progress are about the source. -/
def System.Rooted (s : System ι) : Prop :=
  ∀ i path, (s.stage i).path? = some path → s.generation.source = some path

omit [DecidableEq ι] in
theorem System.Idle.rooted (idle : s.Idle) : s.Rooted := by
  intro i path found
  rw [idle i] at found
  cases found

theorem System.Rooted.proceed (rooted : s.Rooted) {stage : Stage}
    (found : ∀ path, stage.path? = some path → s.generation.source = some path) :
    (s.proceed i stage).Rooted := by
  intro j path located
  rw [System.proceed_stage] at located
  split at located
  · exact found path located
  · exact rooted j path located

/-- No reload moves the source. -/
theorem Step.source_eq (step : Step s d t) (rooted : s.Rooted) :
    t.generation.source = s.generation.source := by
  cases step with
  | @install i path parameters stage => exact (rooted i path (by rw [stage]; rfl)).symm
  | locate | skip | accept | refuse | rewrite => rfl

theorem Step.rooted (step : Step s d t) (rooted : s.Rooted) : t.Rooted := by
  cases step with
  | skip | rewrite => exact rooted
  | locate stage source => exact rooted.proceed fun path found => found ▸ source
  | @accept i path p stage accepted =>
    exact rooted.proceed fun path found => rooted i path (by rw [stage]; exact found)
  | refuse => exact rooted.proceed fun _ found => by cases found
  | @install i path p stage =>
    have source : s.generation.source = some path := rooted i path (by rw [stage]; rfl)
    have idle : (s.proceed i .waiting).Rooted := rooted.proceed fun _ found => by cases found
    exact fun j path' located => source.symm.trans (idle j path' located)

theorem Run.rooted (run : Run s ds t) (rooted : s.Rooted) : t.Rooted := by
  induction run with
  | nil => exact rooted
  | snoc _ step ih => exact step.rooted ih

/-- What somebody has read was in the file at some time, and was not read again or installed since. -/
theorem Run.read_of_parsed (run : Run s ds t) (idle : s.Idle) (parsed : t.stage i = .parsed path p) :
    ∃ c r u, ds = c ++ .read i :: r ∧ .read i ∉ r ∧ .installed i ∉ r ∧ Run s c u ∧
      u.generation.source = some path ∧ Parameters.ofFile u.files path = .ok p := by
  induction run with
  | nil =>
    rw [idle i] at parsed
    cases parsed
  | @snoc ds d t u run step ih =>
    rcases step.parsed parsed with ⟨rfl, located, accepted⟩ | ⟨unread, uninstalled, before⟩
    · have source : t.generation.source = some path :=
        run.rooted idle.rooted i path (by rw [located]; rfl)
      exact ⟨ds, [], t, rfl, by simp, by simp, run, source, accepted⟩
    · obtain ⟨c, r, u, rfl, hr, hi, found⟩ := ih before
      exact ⟨c, r ++ [d], u, by simp, by simp [hr, Ne.symm unread], by simp [hi, Ne.symm uninstalled],
        found⟩

/-! ## What holds after a rewrite -/

/-- What was read stays read until it is installed. -/
theorem Step.parsed_or_installed (step : Step s d t) (parsed : s.stage i = .parsed path p) :
    d = .installed i ∨ t.stage i = .parsed path p := by
  cases step with
  | skip | rewrite => exact .inr parsed
  | @locate j _ stage | @accept j _ _ stage | @refuse j _ _ stage =>
    refine .inr ?_
    rw [System.proceed_stage, if_neg, parsed]
    rintro rfl
    cases parsed.symm.trans stage
  | @install j =>
    by_cases same : i = j
    · exact .inl (by rw [same])
    · exact .inr (by rw [System.install_stage, if_neg same, parsed])

/-- The last to install put `active` in force: what was read since `s`, which is `new`, or what had been
read before. -/
def Latest (s : System ι) (new : Parameters Float) (ds : List (Deed ι)) (active : Parameters Float) :
    Prop :=
  ∃ a i b, ds = a ++ .installed i :: b ∧ (∀ j, .installed j ∉ b) ∧
    ((.read i ∈ a ∧ active = new) ∨ (.read i ∉ a ∧ ∃ path, s.stage i = .parsed path active))

/-- What holds after the steps `ds` since `s`, when the source is the text with the parameters `new`
all the time. -/
structure Since (s : System ι) (path text : String) (new : Parameters Float) (ds : List (Deed ι))
    (t : System ι) : Prop where
  source : t.generation.source = some path
  file : t.files path = .ok text
  rooted : t.Rooted
  /-- What was read and not yet installed is `new`, unless it was read before. -/
  parsed {i : ι} {path : String} {p : Parameters Float} (stage : t.stage i = .parsed path p) :
    (.read i ∈ ds ∧ p = new) ∨ (.read i ∉ ds ∧ s.stage i = .parsed path p)
  /-- What is in force is what was installed last. -/
  latest (installed : ∃ j, .installed j ∈ ds) : Latest s new ds t.generation.parameters
  /-- Whoever read is to install what was read, unless someone installed already. -/
  pending {i : ι} (read : .read i ∈ ds) :
    (∃ j, .installed j ∈ ds) ∨ ∃ path p, t.stage i = .parsed path p

variable {new : Parameters Float}

omit [DecidableEq ι] in
theorem Latest.snoc {active : Parameters Float} (latest : Latest s new ds active)
    (uninstalled : ∀ j, d ≠ .installed j) : Latest s new (ds ++ [d]) active := by
  obtain ⟨a, i, b, rfl, rest, known⟩ := latest
  refine ⟨a, i, b ++ [d], by simp, fun j mem => ?_, known⟩
  rcases List.mem_append.1 mem with mem | mem
  · exact rest j mem
  · exact uninstalled j (List.mem_singleton.1 mem).symm

/-- A reading of the source accepts what is there. -/
theorem Step.reads (step : Step t (.read i) u) (since : Since s path text new ds t)
    (valid : Parameters.ofText text = .ok new) : u.stage i = .parsed path new := by
  have here {q : String} (stage : t.stage i = .located q) :
      q = path ∧ Parameters.ofFile t.files q = .ok new := by
    have same : q = path := by
      have source := since.rooted i q (by rw [stage]; rfl)
      exact Option.some.inj (source.symm.trans since.source)
    subst same
    exact ⟨rfl, by simp only [Parameters.ofFile, since.file, valid]⟩
  cases step with
  | @accept _ q p stage accepted =>
    obtain ⟨rfl, read⟩ := here stage
    cases accepted.symm.trans read
    exact t.proceed_stage_self i _
  | @refuse _ q _ stage refused => cases refused.symm.trans (here stage).2

theorem Step.latest (step : Step t d u) (since : Since s path text new ds t)
    (installed : ∃ j, .installed j ∈ ds ++ [d]) : Latest s new (ds ++ [d]) u.generation.parameters := by
  have earlier (same : u.generation = t.generation) (other : ∀ j, d ≠ .installed j) :
      Latest s new (ds ++ [d]) u.generation.parameters := by
    obtain ⟨j, mem⟩ := installed
    have before : .installed j ∈ ds :=
      (List.mem_append.1 mem).resolve_right fun last => other j (List.mem_singleton.1 last).symm
    rw [same]
    exact (since.latest ⟨j, before⟩).snoc other
  cases step with
  | @install i q p stage =>
    refine ⟨ds, i, [], rfl, by simp, ?_⟩
    exact (since.parsed stage).imp_right fun ⟨unread, parsed⟩ => ⟨unread, q, parsed⟩
  | locate | skip | accept | refuse | rewrite => exact earlier rfl (by simp)

/-- **Every step but a rewrite keeps what holds since then.** -/
theorem Step.since (step : Step t d u) (unwritten : ∀ text', d ≠ .rewritten text')
    (valid : Parameters.ofText text = .ok new) (since : Since s path text new ds t) :
    Since s path text new (ds ++ [d]) u where
  source := (step.source_eq since.rooted).trans since.source
  file := by
    cases step with
    | rewrite => exact absurd rfl (unwritten _)
    | locate | skip | accept | refuse | install => exact since.file
  rooted := step.rooted since.rooted
  parsed {i q p} stage := by
    rcases step.parsed stage with ⟨rfl, _⟩ | ⟨unread, _, before⟩
    · rw [step.reads since valid] at stage
      cases stage
      exact .inl ⟨by simp, rfl⟩
    · have same : .read i ∈ ds ++ [d] ↔ .read i ∈ ds := by simp [Ne.symm unread]
      rw [same]
      exact since.parsed before
  latest := step.latest since
  pending {i} read := by
    rcases List.mem_append.1 read with read | read
    · rcases since.pending read with ⟨j, installed⟩ | ⟨q, p, parsed⟩
      · exact .inl ⟨j, List.mem_append_left _ installed⟩
      · rcases step.parsed_or_installed parsed with rfl | parsed
        · exact .inl ⟨i, by simp⟩
        · exact .inr ⟨q, p, parsed⟩
    · obtain rfl := List.mem_singleton.1 read
      exact .inr ⟨path, new, step.reads since valid⟩

theorem Run.since (run : Run s ds t) (unwritten : ∀ text', .rewritten text' ∉ ds)
    (valid : Parameters.ofText text = .ok new) (start : Since s path text new [] s) :
    Since s path text new ds t := by
  induction run with
  | nil => exact start
  | @snoc ds d t u _ step ih =>
    refine step.since (fun text' same => unwritten text' (by simp [same])) valid (ih fun text' mem => ?_)
    exact unwritten text' (List.mem_append_left _ mem)

/-- A rewrite is what `Since` begins with. -/
theorem Step.begins (step : Step u (.rewritten text) v) (rooted : u.Rooted) :
    (∃ path new, Parameters.ofText text = .ok new ∧ Since v path text new [] v) ∧
      v.stage = u.stage := by
  have rooted' := step.rooted rooted
  cases step with
  | @rewrite path _ new source valid =>
    refine ⟨⟨path, new, valid, ?_⟩, rfl⟩
    exact {
      source := source
      file := Function.update_self ..
      rooted := rooted'
      parsed := fun stage => .inr ⟨List.not_mem_nil, stage⟩
      latest := fun ⟨_, mem⟩ => nomatch mem
      pending := fun mem => nomatch mem }

/-! ## The last install decides -/

/-- **After the last rewrite of the source, the last install decides.** It puts the document in force
that was written then if its caller read the file after that, and an older one otherwise. If nobody was
between reading and installing at the rewrite, it is the document that was written. A further call that
nobody comes between does what `reload` does. -/
theorem reload_order (idle : s.Idle) (earlier : Run s before u)
    (rewritten : Step u (.rewritten text) v) (later : Run v after t)
    (last : ∀ text', .rewritten text' ∉ after) (returned : t.Idle) (read : ∃ i, .read i ∈ after) :
    (∃ a i b, after = a ++ .installed i :: b ∧ (∀ j, .installed j ∉ b) ∧
      (.read i ∈ a → Parameters.ofText text = .ok t.generation.parameters) ∧
      (.read i ∉ a → ∃ c r w path, before = c ++ .read i :: r ∧ .read i ∉ r ∧ .installed i ∉ r ∧
        Run s c w ∧ w.generation.source = some path ∧
        Parameters.ofFile w.files path = .ok t.generation.parameters)) ∧
      (u.Settled → Parameters.ofText text = .ok t.generation.parameters) ∧
      ∀ i, ∃ ds, (∀ d ∈ ds, d ∈ [.located i, .skipped i, .read i, .installed i]) ∧
        Run t ds { t with generation := (t.generation.reload t.files).current t.generation } := by
  obtain ⟨⟨path, new, valid, start⟩, stages⟩ := rewritten.begins (earlier.rooted idle.rooted)
  have since := later.since last valid start
  have installed : ∃ j, .installed j ∈ after := by
    obtain ⟨i, mem⟩ := read
    refine (since.pending mem).resolve_right fun ⟨_, _, parsed⟩ => ?_
    cases (returned i).symm.trans parsed
  obtain ⟨a, i, b, split, rest, known⟩ := since.latest installed
  refine ⟨?_, ?_, fun i => run_reload (returned i)⟩
  · refine ⟨a, i, b, split, rest, fun mem => ?_, fun unread => ?_⟩
    · obtain ⟨_, rfl⟩ := known.resolve_right fun h => h.1 mem
      exact valid
    · obtain ⟨_, q, parsed⟩ := known.resolve_left fun h => unread h.1
      rw [stages] at parsed
      obtain ⟨c, r, w, found⟩ := earlier.read_of_parsed idle parsed
      exact ⟨c, r, w, q, found⟩
  · intro settled
    rcases known with ⟨_, same⟩ | ⟨_, q, parsed⟩
    · rw [same]
      exact valid
    · rw [stages] at parsed
      exact absurd parsed (settled i q _)

/-- A store with a file, for two callers: the operator (`true`) and the watcher. -/
def foyStore : System Bool :=
  ⟨.first .builtin (some "weights.json"), fun _ => .ok (foyDocument "80"), fun _ => .waiting⟩

theorem ofText_foyDocument_90 : ∃ parameters, Parameters.ofText (foyDocument "90") = .ok parameters :=
  exists_ok_of_isOk (by decide +kernel)

/-- A rewrite while nobody is about to install anything: the watcher's reload puts in force what was
written. -/
theorem reload_order_settled :
    ∃ v t : System Bool, Step foyStore (.rewritten (foyDocument "90")) v ∧
      Run v [.located false, .read false, .installed false] t ∧
      Parameters.ofText (foyDocument "90") = .ok t.generation.parameters := by
  obtain ⟨p, written⟩ := ofText_foyDocument_90
  have read : Run (foyStore.rewrite "weights.json" (foyDocument "90")) [.located false, .read false] _ :=
    run_read rfl rfl written
  have installed := read.snoc (.install (i := false) rfl)
  refine ⟨_, _, .rewrite rfl written, installed, ?_⟩
  exact (reload_order (fun _ => rfl) .nil (.rewrite rfl written) installed (by simp)
    (fun i => by cases i <;> rfl) ⟨false, by simp⟩).2.1 (fun _ _ _ stage => by cases stage)

/-- The operator reads the file, which is rewritten then. The watcher reads what was written and installs
it, and the operator installs what it had read: the older document is in force, for good. -/
theorem reload_overtaken :
    ∃ u v t : System Bool, foyStore.Idle ∧ Run foyStore [.located true, .read true] u ∧
      Step u (.rewritten (foyDocument "90")) v ∧
      Run v [.located false, .read false, .installed false, .installed true] t ∧ t.Idle ∧
      Parameters.ofText (foyDocument "90") ≠ .ok t.generation.parameters ∧
      Parameters.ofText (foyDocument "80") = .ok t.generation.parameters := by
  have differ : (Parameters.ofText (foyDocument "80")).toOption ≠
      (Parameters.ofText (foyDocument "90")).toOption := by decide +kernel
  obtain ⟨p, accepted⟩ := ofText_foyDocument_80
  obtain ⟨q, written⟩ := ofText_foyDocument_90
  have operator : Run foyStore [.located true, .read true] _ := run_read rfl rfl accepted
  have watcher : Run ((foyStore.proceed true (.parsed "weights.json" p)).rewrite "weights.json"
      (foyDocument "90")) [.located false, .read false] _ := run_read rfl rfl written
  have overtaken := (watcher.snoc (.install (i := false) rfl)).snoc (.install (i := true) rfl)
  refine ⟨_, _, _, fun _ => rfl, operator, .rewrite rfl written, overtaken,
    fun i => by cases i <;> rfl, ?_, accepted⟩
  intro same
  exact differ (congrArg Except.toOption (accepted.trans same.symm))

end MapBallot.Weighting
