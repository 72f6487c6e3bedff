import MapBallot.Weighting.Store

/-!
# `MapBallot.Proofs.Weighting.Runs` — the parameters in force, over whole runs

The store starts with some generation and is then asked, again and again, to replace it: by a text, by a
file, or by its source as it is by then. Files change between the calls, and most of what is offered may
be unreadable or invalid. Whatever happens, the parameters in force are those of one whole document that
was accepted, the last one; nothing else of a call gets through.

## Contents

* `Edition` — a document that was accepted;
* `Operation`, `Request`, `Generation.attempt`, `Generation.after` — calls, one after the other;
* `Call`, `call_attempt` — what a call answers, and what is in force after it;
* `Start`, `Starts` — where runs begin;
* `Generation.editions`, `Generation.moves`, `Generation.inForce` — what was installed in a run, which
  files became the source, and which generations were in force;
* `RunLaw`, `run_law` — what holds after every run;
* `run_law_mended` — a file that is missing at first.
-/

namespace MapBallot.Weighting

open Files (ReadFault Reader)

/-! ## Calls -/

/-- A document that is accepted. -/
structure Edition where
  text : String
  parameters : Parameters Float
  accepted : Parameters.ofText text = .ok parameters

/-- The document with a text, if it is accepted. -/
def Edition.ofText? (text : String) : Option Edition :=
  match accepted : Parameters.ofText text with
  | .ok parameters => some ⟨text, parameters, accepted⟩
  | .error _ => none

theorem Edition.ofText?_ok {text : String} {parameters : Parameters Float}
    (accepted : Parameters.ofText text = .ok parameters) :
    ofText? text = some ⟨text, parameters, accepted⟩ := by
  unfold ofText?
  split
  · rename_i found
    cases found.symm.trans accepted
    rfl
  · rename_i found
    cases found.symm.trans accepted

theorem Edition.ofText?_error {text : String} {problem : Problem Float}
    (rejected : Parameters.ofText text = .error problem) : ofText? text = none := by
  unfold ofText?
  split
  · rename_i found
    cases found.symm.trans rejected
  · rfl

/-- What the store can be asked to do. -/
inductive Operation
  | replaceFromText (text : String)
  | reloadFrom (path : String)
  | reload

/-- A call, with the files as they are when it is made. -/
structure Request where
  files : Reader
  operation : Operation

/-- The text that a request reads, if there is one to read. -/
def Request.text? (r : Request) (source : Option String) : Option String :=
  match r.operation with
  | .replaceFromText text => some text
  | .reloadFrom path => (r.files path).toOption
  | .reload => source.bind fun path => (r.files path).toOption

/-- The document that a request installs, if it installs one. -/
def Request.edition? (r : Request) (source : Option String) : Option Edition :=
  (r.text? source).bind Edition.ofText?

/-- The file that a request makes the source, if it does. -/
def Request.move? (r : Request) : Option String :=
  match r.operation with
  | .reloadFrom path => (r.edition? none).map fun _ => path
  | _ => none

/-- Only what is installed becomes the source. -/
theorem Request.move?_eq_none {r : Request} {source : Option String}
    (nothing : r.edition? source = none) : r.move? = none := by
  obtain ⟨files, text | path | _⟩ := r
  case reloadFrom =>
    have unread : Request.edition? ⟨files, .reloadFrom path⟩ none = none := nothing
    simp [Request.move?, unread]
  case replaceFromText | reload => rfl

namespace Generation

/-- What a request comes to. -/
def attempt (g : Generation) (r : Request) : Attempt :=
  match r.operation with
  | .replaceFromText text => g.replaceFromText text
  | .reloadFrom path => g.reloadFrom r.files path
  | .reload => g.reload r.files

/-- What is in force after a request. -/
def next (g : Generation) (r : Request) : Generation := (g.attempt r).current g

/-- What is in force after several requests, one after the other. -/
def after (g : Generation) (rs : List Request) : Generation := rs.foldl next g

theorem after_concat (g : Generation) (rs : List Request) (r : Request) :
    g.after (rs ++ [r]) = (g.after rs).next r := by simp [after]

end Generation

/-- What a call answers when `g` is in force, and what is in force after it. -/
inductive Call (g : Generation) :
    Request → Except (Problem Float) Generation → Generation → Prop
  | replaced {files : Reader} {text : String} {parameters : Parameters Float}
      (accepted : Parameters.ofText text = .ok parameters) :
      Call g ⟨files, .replaceFromText text⟩ (.ok ⟨g.version + 1, parameters, g.source⟩)
        ⟨g.version + 1, parameters, g.source⟩
  | rejected {files : Reader} {text : String} {problem : Problem Float}
      (rejected : Parameters.ofText text = .error problem) :
      Call g ⟨files, .replaceFromText text⟩ (.error problem) g
  | loaded {files : Reader} {path text : String} {parameters : Parameters Float}
      (read : files path = .ok text) (accepted : Parameters.ofText text = .ok parameters) :
      Call g ⟨files, .reloadFrom path⟩ (.ok ⟨g.version + 1, parameters, some path⟩)
        ⟨g.version + 1, parameters, some path⟩
  | unreadable {files : Reader} {path : String} {fault : ReadFault}
      (unread : files path = .error fault) :
      Call g ⟨files, .reloadFrom path⟩ (.error (.unreadable path fault)) g
  | refused {files : Reader} {path text : String} {problem : Problem Float}
      (read : files path = .ok text) (rejected : Parameters.ofText text = .error problem) :
      Call g ⟨files, .reloadFrom path⟩ (.error problem) g
  /-- The source is read again as it is by now. -/
  | reloaded {files : Reader} {path : String} {answer : Except (Problem Float) Generation}
      {next : Generation} (source : g.source = some path)
      (call : Call g ⟨files, .reloadFrom path⟩ answer next) : Call g ⟨files, .reload⟩ answer next
  | skipped {files : Reader} (unsourced : g.source = none) : Call g ⟨files, .reload⟩ (.ok g) g

theorem call_reloadFrom (g : Generation) (files : Reader) (path : String) :
    Call g ⟨files, .reloadFrom path⟩ (g.reloadFrom files path).outcome
      ((g.reloadFrom files path).current g) := by
  unfold Generation.reloadFrom Parameters.ofFile
  cases read : files path with
  | error fault => exact .unreadable read
  | ok text =>
    cases accepted : Parameters.ofText text with
    | ok parameters =>
      simp only [accepted]
      exact .loaded read accepted
    | error problem =>
      simp only [accepted]
      exact .refused read accepted

/-- **Every call is one of the table's.** -/
theorem call_attempt (g : Generation) (r : Request) : Call g r (g.attempt r).outcome (g.next r) := by
  obtain ⟨files, text | path | _⟩ := r
  case replaceFromText =>
    show Call g _ (g.replaceFromText text).outcome ((g.replaceFromText text).current g)
    unfold Generation.replaceFromText
    cases accepted : Parameters.ofText text with
    | ok parameters => exact .replaced accepted
    | error problem => exact .rejected accepted
  case reloadFrom => exact call_reloadFrom g files path
  case reload =>
    show Call g _ (g.reload files).outcome ((g.reload files).current g)
    unfold Generation.reload
    cases source : g.source with
    | none => exact .skipped source
    | some path => exact .reloaded source (call_reloadFrom g files path)

variable {g next : Generation} {r : Request} {answer : Except (Problem Float) Generation}

/-- A failed call changes nothing. -/
theorem Call.failed {problem : Problem Float} (call : Call g r (.error problem) next) : next = g := by
  generalize result : Except.error problem = answer at call
  induction call with
  | reloaded _ _ ih => exact ih result
  | rejected | unreadable | refused => rfl
  | replaced | loaded | skipped => cases result

/-- A file that is read and accepted is installed, and is the source from then on. -/
theorem Call.next_eq_of_path {files : Reader} {path : String} (source : Option String)
    (call : Call g ⟨files, .reloadFrom path⟩ answer next) :
    next = (Request.edition? ⟨files, .reloadFrom path⟩ source).elim g fun e =>
      ⟨g.version + 1, e.parameters, some path⟩ := by
  cases call with
  | loaded read accepted =>
    simp [Request.edition?, Request.text?, read, Except.toOption, Edition.ofText?_ok accepted]
  | unreadable unread => simp [Request.edition?, Request.text?, unread, Except.toOption]
  | refused read rejected =>
    simp [Request.edition?, Request.text?, read, Except.toOption, Edition.ofText?_error rejected]

/-- A call that reads a document which is accepted installs it, and any other changes nothing. -/
theorem Call.next_eq (call : Call g r answer next) :
    next = (r.edition? g.source).elim g fun e =>
      ⟨g.version + 1, e.parameters, r.move?.or g.source⟩ := by
  obtain ⟨files, text | path | _⟩ := r
  case replaceFromText =>
    cases call with
    | replaced accepted =>
      simp [Request.edition?, Request.text?, Request.move?, Edition.ofText?_ok accepted]
    | rejected rejected => simp [Request.edition?, Request.text?, Edition.ofText?_error rejected]
  case reloadFrom =>
    rw [call.next_eq_of_path g.source]
    cases found : Request.edition? ⟨files, .reloadFrom path⟩ g.source with
    | none => rfl
    | some e =>
      have moved : Request.move? ⟨files, .reloadFrom path⟩ = some path := by
        simp [Request.move?, show Request.edition? ⟨files, .reloadFrom path⟩ none = some e from found]
      simp [moved]
  case reload =>
    cases call with
    | reloaded source call =>
      rw [call.next_eq_of_path none]
      simp [Request.edition?, Request.text?, Request.move?, source]
    | skipped unsourced => simp [Request.edition?, Request.text?, unsourced]

/-! ## Where runs begin -/

/-- How a store is made. -/
inductive Start
  | builtin
  | given (parameters : Parameters Float) (source : Option String)
  | configured (files : Reader) (path : Option String)

/-- The generation that a store starts with. -/
def Start.generation : Start → Generation
  | .builtin => .builtin
  | .given parameters source => .first parameters source
  | .configured files path => (Generation.load files path).1

/-- The parameters and the source that a store starts with. A configured file is the source even if
nothing could be loaded from it. -/
inductive Starts : Start → Parameters Float → Option String → Prop
  | builtin : Starts .builtin .builtin none
  | given (parameters : Parameters Float) (source : Option String) :
      Starts (.given parameters source) parameters source
  | unconfigured (files : Reader) : Starts (.configured files none) .builtin none
  | loaded {files : Reader} {path text : String} {parameters : Parameters Float}
      (read : files path = .ok text) (accepted : Parameters.ofText text = .ok parameters) :
      Starts (.configured files (some path)) parameters (some path)
  | missing {files : Reader} {path : String} {fault : ReadFault}
      (unread : files path = .error fault) :
      Starts (.configured files (some path)) .builtin (some path)
  | invalid {files : Reader} {path text : String} {problem : Problem Float}
      (read : files path = .ok text) (rejected : Parameters.ofText text = .error problem) :
      Starts (.configured files (some path)) .builtin (some path)

theorem starts_generation (start : Start) :
    ∃ parameters source, Starts start parameters source ∧
      start.generation = .first parameters source := by
  obtain _ | ⟨parameters, source⟩ | ⟨files, _ | path⟩ := start
  · exact ⟨_, _, .builtin, rfl⟩
  · exact ⟨_, _, .given parameters source, rfl⟩
  · exact ⟨_, _, .unconfigured files, rfl⟩
  · simp only [Start.generation, Generation.load, Parameters.ofFile]
    cases read : files path with
    | error fault => exact ⟨_, _, .missing read, rfl⟩
    | ok text =>
      cases accepted : Parameters.ofText text with
      | ok parameters => exact ⟨_, _, .loaded read accepted, by simp only [accepted]⟩
      | error problem => exact ⟨_, _, .invalid read accepted, by simp only [accepted]⟩

/-! ## Runs -/

namespace Generation

/-- The documents that are installed in a run. -/
def editions (g : Generation) : List Request → List Edition
  | [] => []
  | r :: rs => (r.edition? g.source).toList ++ (g.next r).editions rs

/-- The files that become the source in a run. -/
def moves (g : Generation) : List Request → List String
  | [] => []
  | r :: rs => r.move?.toList ++ (g.next r).moves rs

/-- The generations that are in force in a run, call after call: those that readers were handed. -/
def inForce (g : Generation) : List Request → List Generation
  | [] => [g]
  | r :: rs => g :: (g.next r).inForce rs

end Generation

/-- **What holds after every run** that began with `g` in force. -/
structure RunLaw (g : Generation) (rs : List Request) : Prop where
  /-- The version counts the documents that were installed. -/
  version : (g.after rs).version = g.version + (g.editions rs).length
  /-- The parameters in force are those of the last document that was installed, as a whole, and the
  first ones until there is such a document. -/
  parameters : (g.after rs).parameters =
    ((g.editions rs).getLast?.map Edition.parameters).getD g.parameters
  /-- The source is the file that was loaded by its name last. -/
  source : (g.after rs).source = (g.moves rs).getLast?.or g.source
  /-- The next call is answered as the table says, whatever the files are by then. -/
  call (r : Request) : Call (g.after rs) r ((g.after rs).attempt r).outcome (g.after (rs ++ [r]))
  /-- A call that fails leaves everything as it was. -/
  failed (r : Request) (problem : Problem Float)
    (failure : ((g.after rs).attempt r).outcome = .error problem) : g.after (rs ++ [r]) = g.after rs
  /-- Whatever was read from the source so far, and even if nothing could be: as soon as the source is
  valid, a reload installs it. -/
  mended {files : Reader} {path text : String} {parameters : Parameters Float}
    (source : g.source = some path) (unmoved : g.moves rs = []) (read : files path = .ok text)
    (accepted : Parameters.ofText text = .ok parameters) :
    g.after (rs ++ [⟨files, .reload⟩]) = ⟨(g.after rs).version + 1, parameters, some path⟩
  /-- What was in force at some time is what was in force then, whatever is asked later. -/
  kept (more : List Request) : g.inForce rs <+: g.inForce (rs ++ more)
  /-- Each version is the version of one generation. -/
  named {h k : Generation} (first : h ∈ g.inForce rs) (second : k ∈ g.inForce rs)
    (version : h.version = k.version) : h = k

namespace Generation

theorem next_eq (g : Generation) (r : Request) :
    g.next r = (r.edition? g.source).elim g fun e =>
      ⟨g.version + 1, e.parameters, r.move?.or g.source⟩ :=
  (call_attempt g r).next_eq

theorem after_version (g : Generation) (rs : List Request) :
    (g.after rs).version = g.version + (g.editions rs).length := by
  induction rs generalizing g with
  | nil => rfl
  | cons r rs ih =>
    have first : (g.next r).version = g.version + (r.edition? g.source).toList.length := by
      rw [next_eq]
      cases r.edition? g.source <;> rfl
    calc ((g.next r).after rs).version
        = (g.next r).version + ((g.next r).editions rs).length := ih _
      _ = g.version + (g.editions (r :: rs)).length := by
        rw [first, editions, List.length_append, Nat.add_assoc]

theorem after_parameters (g : Generation) (rs : List Request) :
    (g.after rs).parameters =
      ((g.editions rs).getLast?.map Edition.parameters).getD g.parameters := by
  induction rs generalizing g with
  | nil => rfl
  | cons r rs ih =>
    have first : (g.next r).parameters =
        ((r.edition? g.source).map Edition.parameters).getD g.parameters := by
      rw [next_eq]
      cases r.edition? g.source <;> rfl
    show ((g.next r).after rs).parameters = _
    rw [ih, first, editions, List.getLast?_append]
    cases ((g.next r).editions rs).getLast? <;> cases r.edition? g.source <;> rfl

theorem after_source (g : Generation) (rs : List Request) :
    (g.after rs).source = (g.moves rs).getLast?.or g.source := by
  induction rs generalizing g with
  | nil => rfl
  | cons r rs ih =>
    have first : (g.next r).source = r.move?.or g.source := by
      rw [next_eq]
      cases found : r.edition? g.source with
      | none => simp [Request.move?_eq_none found]
      | some e => rfl
    show ((g.next r).after rs).source = _
    rw [ih, first, moves, List.getLast?_append]
    cases ((g.next r).moves rs).getLast? <;> cases r.move? <;> rfl

/-- The call after a run. -/
theorem call_after (g : Generation) (rs : List Request) (r : Request) :
    Call (g.after rs) r ((g.after rs).attempt r).outcome (g.after (rs ++ [r])) := by
  rw [after_concat]
  exact call_attempt _ r

/-- A reload installs the source that is valid by then. -/
theorem after_reload {g : Generation} {rs : List Request} {files : Reader} {path text : String}
    {parameters : Parameters Float} (source : (g.after rs).source = some path)
    (read : files path = .ok text) (accepted : Parameters.ofText text = .ok parameters) :
    g.after (rs ++ [⟨files, .reload⟩]) = ⟨(g.after rs).version + 1, parameters, some path⟩ := by
  have edition : Request.edition? ⟨files, .reload⟩ (some path) = some ⟨text, parameters, accepted⟩ := by
    simp [Request.edition?, Request.text?, read, Except.toOption, Edition.ofText?_ok accepted]
  rw [after_concat, next_eq, source, edition]
  rfl

theorem inForce_prefix (g : Generation) (rs more : List Request) :
    g.inForce rs <+: g.inForce (rs ++ more) := by
  induction rs generalizing g with
  | nil => cases more <;> simp [inForce]
  | cons r rs ih => exact List.cons_prefix_cons.2 ⟨rfl, ih _⟩

/-- What is in force later is the same generation still, or has a greater version. -/
theorem eq_or_lt_of_mem_inForce {g h : Generation} {rs : List Request} (mem : h ∈ g.inForce rs) :
    h = g ∨ g.version < h.version := by
  induction rs generalizing g with
  | nil => exact .inl (List.mem_singleton.1 mem)
  | cons r rs ih =>
    have step : g.next r = g ∨ g.version < (g.next r).version := by
      rw [next_eq]
      cases r.edition? g.source
      · exact .inl rfl
      · exact .inr (Nat.lt_succ_self _)
    rcases List.mem_cons.1 mem with rfl | later
    · exact .inl rfl
    · rcases ih later with rfl | greater
      · exact step
      · rcases step with same | less
        · rw [same] at greater
          exact .inr greater
        · exact .inr (Nat.lt_trans less greater)

/-- No two generations in force in a run share a version. -/
theorem eq_of_mem_inForce {g h k : Generation} {rs : List Request} (first : h ∈ g.inForce rs)
    (second : k ∈ g.inForce rs) (version : h.version = k.version) : h = k := by
  induction rs generalizing g with
  | nil => rw [List.mem_singleton.1 first, List.mem_singleton.1 second]
  | cons r rs ih =>
    -- A version as low as that of `g` is its own: all others in force are greater.
    rcases eq_or_lt_of_mem_inForce first, eq_or_lt_of_mem_inForce second with
      ⟨rfl | above, same | above'⟩
    · exact same.symm
    · omega
    · subst same
      omega
    · have tail {x : Generation} (mem : x ∈ g.inForce (r :: rs)) (above : g.version < x.version) :
          x ∈ (g.next r).inForce rs := by
        rcases List.mem_cons.1 mem with rfl | later
        · exact absurd above (Nat.lt_irrefl _)
        · exact later
      exact ih (tail first above) (tail second above')

end Generation

theorem Generation.runLaw (g : Generation) (rs : List Request) : RunLaw g rs where
  version := g.after_version rs
  parameters := g.after_parameters rs
  source := g.after_source rs
  call := g.call_after rs
  failed r problem failure := (failure ▸ g.call_after rs r).failed
  mended source unmoved read accepted := by
    refine after_reload ?_ read accepted
    rw [g.after_source, unmoved, source]
    rfl
  kept := g.inForce_prefix rs
  named := eq_of_mem_inForce

/-- **A store over a whole run.** However it was made and whatever was asked of it, its parameters are
those of the last document that was accepted, as a whole. -/
theorem run_law (start : Start) (rs : List Request) :
    ∃ parameters source, Starts start parameters source ∧
      start.generation = .first parameters source ∧ RunLaw start.generation rs := by
  obtain ⟨parameters, source, starts, first⟩ := starts_generation start
  exact ⟨parameters, source, starts, first, Generation.runLaw _ rs⟩

theorem exists_ok_of_isOk {ε β : Type} {r : Except ε β} (ok : r.isOk = true) : ∃ b, r = .ok b := by
  cases r with
  | ok b => exact ⟨b, rfl⟩
  | error e => cases ok

/-- A document with one map, and the weight of its group. -/
def foyDocument (weight : String) : String :=
  "\x7b\"groups\":\x7b\"Top\":\x7b\"weight\":" ++ weight ++
    ",\"repeat_decay\":0,\"maps\":[\"foy\"]\x7d\x7d," ++
    "\"environments\":\x7b\"Day\":\x7b\"weight\":100," ++
    "\"repeat_decay\":0,\"environments\":[\"day\"]\x7d\x7d\x7d"

theorem ofText_foyDocument_80 : ∃ parameters, Parameters.ofText (foyDocument "80") = .ok parameters :=
  exists_ok_of_isOk (by decide +kernel)

/-- A store whose file is missing at first, also for a first reload, gets the file with the second. -/
theorem run_law_mended :
    let missing : Reader := fun _ => .error .notFound
    let mended : Reader := fun _ => .ok (foyDocument "80")
    ∃ parameters, Parameters.ofText (foyDocument "80") = .ok parameters ∧
      (Start.configured missing (some "weights.json")).generation.after
        [⟨missing, .reload⟩, ⟨mended, .reload⟩] = ⟨2, parameters, some "weights.json"⟩ := by
  intro missing mended
  obtain ⟨parameters, accepted⟩ := ofText_foyDocument_80
  obtain ⟨_, _, _, _, law⟩ := run_law (.configured missing (some "weights.json")) [⟨missing, .reload⟩]
  exact ⟨parameters, accepted, law.mended rfl rfl (rfl : mended "weights.json" = _) accepted⟩

end MapBallot.Weighting
