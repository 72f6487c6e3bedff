import MapBallot.Proofs.Swap.Course

/-!
# `MapBallot.Proofs.Swap.CallOrder` — the order of a cycle's calls, and its outcome

`Course` lists what a cycle can do, row by row. This module states what all rows have in common: the
calls come in the order of their purposes and none is repeated, the first failure of a read or of the
selection ends the cycle before anything was changed, and once there is a selection and a whitelist to
restore, restoring it is the last call, whatever failed before. The outcome names the step that failed.

## Contents

* `purposes`, `OnlyReads`, `Selected`, `Obtained` — what was done, selected and read in a course;
* `FailedIn`, `Told` — the reading of an outcome off the calls;
* `CallLaw` — the law of the calls; `Swapped` — the parts of a course that comes to restoring, and what
  each of them calls; `Course.callLaw` — every course keeps the law;
* `runExclusive_calls` — so does every cycle.
-/

namespace MapBallot.Swap

open Remote (Call CallError Whitelist)
open Process (Path host)

variable {α σ : Type}

/-! ## What was done in a course -/

/-- What a step makes a call for, if it makes one. -/
def Beat.purpose? : Beat → Option Purpose
  | call purpose _ _ => some purpose
  | _ => none

/-- A step makes a call that fails. -/
def Beat.failed : Beat → Bool
  | call _ _ (.error _) => true
  | _ => false

/-- What calls are made for, one after the other. -/
def purposes (bs : List Beat) : List Purpose := bs.filterMap Beat.purpose?

@[simp]
theorem purposes_nil : purposes [] = [] := rfl

@[simp]
theorem purposes_call (p : Purpose) (c : Call) (answer : c.Answer) (bs : List Beat) :
    purposes (.call p c answer :: bs) = p :: purposes bs := rfl

@[simp]
theorem purposes_poll (raised : Bool) (bs : List Beat) :
    purposes (.poll raised :: bs) = purposes bs := rfl

@[simp]
theorem purposes_settle (raised : Bool) (bs : List Beat) :
    purposes (.settle raised :: bs) = purposes bs := rfl

@[simp]
theorem purposes_append (bs cs : List Beat) : purposes (bs ++ cs) = purposes bs ++ purposes cs :=
  List.filterMap_append

theorem mem_purposes {bs : List Beat} {p : Purpose} :
    p ∈ purposes bs ↔ ∃ c answer, .call p c answer ∈ bs := by
  unfold purposes
  rw [List.mem_filterMap]
  constructor
  · rintro ⟨_ | _ | _, hb, hp⟩
    · obtain rfl := Option.some.inj hp
      exact ⟨_, _, hb⟩
    · cases hp
    · cases hp
  · rintro ⟨c, answer, h⟩
    exact ⟨_, h, rfl⟩

theorem not_mem_of_purposes {bs : List Beat} {ps : List Purpose} (h : (purposes bs).Sublist ps)
    {p : Purpose} (hp : p ∉ ps) (c : Call) (answer : c.Answer) : .call p c answer ∉ bs :=
  fun hb => hp (h.subset (mem_purposes.2 ⟨c, answer, hb⟩))

/-- A step only reads from the remote tool. -/
def Beat.reads : Beat → Bool
  | call _ .catalog _ | call _ .settings _ | call _ .getWhitelist _ => true
  | _ => false

/-- These steps only read from the remote tool. -/
def OnlyReads (bs : List Beat) : Prop := ∀ b ∈ bs, b.reads = true

theorem onlyReads_cons_iff {b : Beat} {bs : List Beat} :
    OnlyReads (b :: bs) ↔ b.reads = true ∧ OnlyReads bs := List.forall_mem_cons

theorem onlyReads_append_iff {bs cs : List Beat} :
    OnlyReads (bs ++ cs) ↔ OnlyReads bs ∧ OnlyReads cs := List.forall_mem_append

/-- Reading puts nothing on the whitelist. -/
theorem OnlyReads.not_replaced {bs : List Beat} (h : OnlyReads bs) (ids : List String)
    (answer : Except CallError Unit) :
    .answered (.setWhitelist ids) answer ∉ bs.map (Beat.move (σ := σ)) := by
  intro hm
  obtain ⟨b, hb, same⟩ := List.mem_map.1 hm
  cases b with
  | call =>
    cases same
    cases h _ hb
  | poll => cases same
  | settle => cases same

/-- Reading is done without a wait. -/
theorem OnlyReads.unsettled {bs : List Beat} (h : OnlyReads bs) (raised : Bool) :
    .settled raised ∉ bs.map (Beat.move (σ := σ)) := by
  intro hm
  obtain ⟨b, hb, same⟩ := List.mem_map.1 hm
  cases b with
  | call => cases same
  | poll => cases same
  | settle => cases h _ hb

section

variable [Scalar α]

/-- The selection succeeded: a course begins with reading and selecting that came to it. -/
def Selected (input : Input α) (settings : Settings) (retained : Option Whitelist)
    (stream : RandomStream) (bs : List Beat) (selection : Selection α) : Prop :=
  ∃ reads rest, reads <+: bs ∧
    Preparation input settings retained stream reads (.ok selection, rest)

end

/-- A whitelist to restore was obtained: it was retained, or read for that purpose. -/
def Obtained (retained : Option Whitelist) (bs : List Beat) (w : Whitelist) : Prop :=
  retained = some w ∨ retained = none ∧ .call .snapshot .getWhitelist (.ok w) ∈ bs

/-! ## What an outcome tells -/

/-- A step forward failed for a reason: its call did, or it was not made because of a shutdown. -/
def FailedIn (bs : List Beat) : Phase → CallError → Prop
  | .applying, e =>
    (∃ ids, .call .apply (.setWhitelist ids) (.error e) ∈ bs) ∨
    (e = .interrupted ∧ .poll true ∈ bs ∧ .apply ∉ purposes bs)
  | .resetting, e =>
    (∃ ids, .call .apply (.setWhitelist ids) (.ok ()) ∈ bs) ∧
    (.call .reset .reset (.error e) ∈ bs ∨
      (e = .interrupted ∧ .settle true ∈ bs ∧ .reset ∉ purposes bs))
  | _, _ => False

/-- The vote was narrowed: the selection was applied, and the vote was drawn up anew. -/
def Narrowed (bs : List Beat) (selection : Selection α) : Prop :=
  .call .apply (.setWhitelist selection.layerIds) (.ok ()) ∈ bs ∧ .call .reset .reset (.ok ()) ∈ bs

/-- Restoring the whitelist was answered in this way. -/
def Restored (bs : List Beat) (answer : Except CallError Unit) : Prop :=
  ∃ ids, .call .restore (.setWhitelist ids) answer ∈ bs

section

variable [Scalar α] (input : Input α) (settings : Settings) (retained : Option Whitelist)
  (stream : RandomStream) (bs : List Beat)

/-- What an outcome tells of the calls. -/
def Told : Outcome α → Prop
  | .selectionFailed (.catalog e) => .call .catalog .catalog (.error e) ∈ bs
  | .selectionFailed (.settings e) => .call .guidance .settings (.error e) ∈ bs
  | .selectionFailed (.whitelist e) => .call .bound .getWhitelist (.error e) ∈ bs
  | .selectionFailed (.choice e) =>
    (∀ b ∈ bs, b.failed = false) ∧
    ∃ rest, Preparation input settings retained stream bs (.error (.choice e), rest)
  | .snapshotFailed e => .call .snapshot .getWhitelist (.error e) ∈ bs
  | .applyFailed phase e => FailedIn bs phase e ∧ Restored bs (.ok ())
  | .applyFailedUnrecovered phase e r => FailedIn bs phase e ∧ Restored bs (.error r)
  | .succeeded selection =>
    Selected input settings retained stream bs selection ∧ Narrowed bs selection ∧
    Restored bs (.ok ())
  | .restoreFailedAfterSuccess selection r =>
    Selected input settings retained stream bs selection ∧ Narrowed bs selection ∧
    Restored bs (.error r)

/-- The law of the calls that a selection is made by. -/
structure ReadLaw : Prop where
  first : ∃ answer, bs.head? = some (.call .catalog .catalog answer)
  guidance : ∀ c answer, .call .guidance c answer ∈ bs →
    c = .settings ∧ settings.useRemoteSettings = true ∧
    ∃ catalog : List Layer, catalog ≠ [] ∧ .call .catalog .catalog (.ok catalog) ∈ bs
  bound : ∀ c answer, .call .bound c answer ∈ bs → c = .getWhitelist ∧ retained = none

/-- The law of the calls of a cycle with a retained whitelist, and of its outcome. -/
structure CallLaw (o : Outcome α) : Prop extends ReadLaw settings retained bs where
  /-- The calls come in the order of their purposes, and none is repeated. -/
  ordered : (purposes bs).Sublist Purpose.all
  snapshot : ∀ c answer, .call .snapshot c answer ∈ bs → c = .getWhitelist ∧ retained = none
  apply : ∀ c answer, .call .apply c answer ∈ bs →
    ∃ selection, Selected input settings retained stream bs selection ∧
      c = .setWhitelist selection.layerIds
  reset : ∀ c answer, .call .reset c answer ∈ bs →
    c = .reset ∧ ∃ ids, .call .apply (.setWhitelist ids) (.ok ()) ∈ bs
  /-- A restore is the last call, and only made with a selection and a whitelist to restore. -/
  restore : ∀ c answer, .call .restore c answer ∈ bs →
    bs.getLast? = some (.call .restore c answer) ∧
    (∃ selection, Selected input settings retained stream bs selection) ∧
    ∃ w, Obtained retained bs w ∧ c = .setWhitelist w.layerIds
  /-- With both, it is made. -/
  restored : ∀ selection w, Selected input settings retained stream bs selection →
    Obtained retained bs w → ∃ answer, .call .restore (.setWhitelist w.layerIds) answer ∈ bs
  /-- A failed read is the last call, and nothing was changed. -/
  failedRead : ∀ p c e, p ∈ Purpose.reads → .call p c (.error e) ∈ bs →
    bs.getLast? = some (.call p c (.error e)) ∧ (purposes bs).Sublist Purpose.reads
  /-- A failed selection ends the calls, and nothing was changed. -/
  unselected : (∀ selection, ¬ Selected input settings retained stream bs selection) →
    (purposes bs).Sublist [.catalog, .guidance, .bound]
  told : Told input settings retained stream bs o

end

/-! ## The law of the parts -/

theorem Guided.purposes {settings : Settings} {gs : List Beat} {plan : Plan} {policy : Policy}
    (h : Guided settings gs plan policy) : (Swap.purposes gs).Sublist [.guidance] := by
  cases h with
  | own => exact List.nil_sublist _
  | remote => exact List.Sublist.refl _

theorem Anchored.purposes {purpose : Purpose} {retained : Option Whitelist} {ws : List Beat}
    {w : Whitelist} (h : Anchored purpose retained ws w) :
    (Swap.purposes ws).Sublist [purpose] := by
  cases h with
  | kept => exact List.nil_sublist _
  | read => exact List.Sublist.refl _

theorem Guided.onlyReads {settings : Settings} {gs : List Beat} {plan : Plan} {policy : Policy}
    (h : Guided settings gs plan policy) : OnlyReads gs := by
  cases h <;> simp [OnlyReads, Beat.reads]

theorem Anchored.onlyReads {purpose : Purpose} {retained : Option Whitelist} {ws : List Beat}
    {w : Whitelist} (h : Anchored purpose retained ws w) : OnlyReads ws := by
  cases h <;> simp [OnlyReads, Beat.reads]

theorem Forward.purposes {selection : Selection α} {steps : List Beat}
    {r : Except (Phase × CallError) Unit} (h : Forward selection steps r) :
    (Swap.purposes steps).Sublist [.apply, .reset] := by
  rcases h with _ | _ | ⟨_ | _ | _⟩ <;> simp

theorem Forward.apply {selection : Selection α} {steps : List Beat}
    {r : Except (Phase × CallError) Unit} (h : Forward selection steps r) {c : Call}
    {answer : c.Answer} (hb : .call .apply c answer ∈ steps) :
    c = .setWhitelist selection.layerIds := by
  rcases h with _ | e | ⟨_ | e | _⟩ <;> simp at hb <;> exact hb.1

theorem Forward.reset {selection : Selection α} {steps : List Beat}
    {r : Except (Phase × CallError) Unit} (h : Forward selection steps r) {c : Call}
    {answer : c.Answer} (hb : .call .reset c answer ∈ steps) :
    c = .reset ∧ .call .apply (.setWhitelist selection.layerIds) (.ok ()) ∈ steps := by
  rcases h with _ | e | ⟨_ | e | _⟩ <;> simp at hb <;> exact ⟨hb.1, by simp⟩

/-- All steps forward were done. -/
theorem Forward.narrowed {selection : Selection α} {steps : List Beat}
    (h : Forward selection steps (.ok ())) : Narrowed steps selection := by
  rcases h with _ | _ | ⟨_ | _ | raised⟩
  exact ⟨by simp, by simp⟩

/-- One of the steps forward failed. -/
theorem Forward.failedIn {selection : Selection α} {steps : List Beat} {phase : Phase} {e : CallError}
    (h : Forward selection steps (.error (phase, e))) : FailedIn steps phase e := by
  rcases h with _ | e | ⟨_ | e | _⟩
  · exact .inr ⟨rfl, by simp, by simp⟩
  · exact .inl ⟨selection.layerIds, by simp⟩
  · exact ⟨⟨selection.layerIds, by simp⟩, .inr ⟨rfl, by simp, by simp⟩⟩
  · exact ⟨⟨selection.layerIds, by simp⟩, .inl (by simp)⟩

/-- A failure of a step forward is one of the whole course. -/
theorem FailedIn.within {before steps after : List Beat} {phase : Phase} {e : CallError}
    (h : FailedIn steps phase e) (hb : (purposes before).Sublist Purpose.reads)
    (ha : (purposes after).Sublist [.restore]) : FailedIn (before ++ steps ++ after) phase e := by
  have mem {b : Beat} (hs : b ∈ steps) : b ∈ before ++ steps ++ after :=
    List.mem_append_left _ (List.mem_append_right _ hs)
  -- What comes before and after makes calls of other purposes only.
  have unasked {p : Purpose} (hp : p ∉ purposes steps) (hr : p ∉ Purpose.reads ++ [.restore]) :
      p ∉ purposes (before ++ steps ++ after) := by
    rw [List.mem_append, not_or] at hr
    rw [purposes_append, purposes_append, List.mem_append, List.mem_append]
    rintro ((h | h) | h)
    · exact hr.1 (hb.subset h)
    · exact hp h
    · exact hr.2 (ha.subset h)
  match phase, h with
  | .applying, .inl ⟨ids, hs⟩ => exact .inl ⟨ids, mem hs⟩
  | .applying, .inr ⟨he, hs, hn⟩ => exact .inr ⟨he, mem hs, unasked hn (by decide)⟩
  | .resetting, ⟨⟨ids, hs⟩, .inl hr⟩ => exact ⟨⟨ids, mem hs⟩, .inl (mem hr)⟩
  | .resetting, ⟨⟨ids, hs⟩, .inr ⟨he, hp, hn⟩⟩ =>
    exact ⟨⟨ids, mem hs⟩, .inr ⟨he, mem hp, unasked hn (by decide)⟩⟩

section

variable [Scalar α] {input : Input α} {settings : Settings} {retained : Option Whitelist}
  {stream : RandomStream}

theorem Preparation.purposes {reads : List Beat}
    {r : Except PrepareError (Selection α) × RandomStream}
    (h : Preparation input settings retained stream reads r) :
    (Swap.purposes reads).Sublist [.catalog, .guidance, .bound] := by
  cases h with
  | catalogFailed => simp
  | catalogEmpty => simp
  | catalogListed listed drawing =>
    rw [purposes_call, List.cons_sublist_cons]
    cases drawing with
    | guidanceFailed => simp
    | boundFailed guided _ e =>
      rw [purposes_append]
      exact guided.purposes.append (List.Sublist.refl [Purpose.bound])
    | chosen guided bounded =>
      rw [purposes_append]
      exact guided.purposes.append bounded.purposes

/-- Reading and selecting only reads. -/
theorem Preparation.onlyReads {reads : List Beat}
    {r : Except PrepareError (Selection α) × RandomStream}
    (h : Preparation input settings retained stream reads r) : OnlyReads reads := by
  cases h with
  | catalogFailed => simp [OnlyReads, Beat.reads]
  | catalogEmpty => simp [OnlyReads, Beat.reads]
  | catalogListed listed drawing =>
    refine onlyReads_cons_iff.2 ⟨rfl, ?_⟩
    cases drawing with
    | guidanceFailed => simp [OnlyReads, Beat.reads]
    | boundFailed guided _ e =>
      exact onlyReads_append_iff.2 ⟨guided.onlyReads, by simp [OnlyReads, Beat.reads]⟩
    | chosen guided bounded => exact onlyReads_append_iff.2 ⟨guided.onlyReads, bounded.onlyReads⟩

theorem Drawing.readLaw {catalog : List Layer} {bs : List Beat}
    {r : Except PrepareError (Selection α) × RandomStream} (listed : catalog ≠ [])
    (h : Drawing input settings retained catalog stream bs r) :
    ReadLaw settings retained (Beat.call .catalog .catalog (.ok catalog) :: bs) := by
  refine ⟨⟨_, rfl⟩, ?guidance, ?bound⟩
  case guidance =>
    rcases h with ⟨on, e⟩ | ⟨_ | ⟨on, s⟩, rfl, e⟩ | ⟨_ | ⟨on, s⟩, _ | _⟩ <;> simp +contextual [*]
  case bound =>
    rcases h with ⟨on, e⟩ | ⟨_ | ⟨on, s⟩, rfl, e⟩ | ⟨_ | ⟨on, s⟩, _ | _⟩ <;> simp +contextual

theorem Preparation.readLaw {reads : List Beat}
    {r : Except PrepareError (Selection α) × RandomStream}
    (h : Preparation input settings retained stream reads r) : ReadLaw settings retained reads := by
  cases h with
  | catalogFailed e => constructor <;> simp
  | catalogEmpty => constructor <;> simp
  | catalogListed listed drawing => exact drawing.readLaw listed

/-- The law of reading does not look at what is done afterwards. -/
theorem ReadLaw.append {reads tail : List Beat} (h : ReadLaw settings retained reads)
    (ht : (Swap.purposes tail).Sublist [.snapshot, .apply, .reset, .restore]) :
    ReadLaw settings retained (reads ++ tail) := by
  refine ⟨?first, ?guidance, ?bound⟩
  case first =>
    obtain ⟨answer, hf⟩ := h.first
    exact ⟨answer, by rw [List.head?_append, hf]; rfl⟩
  case guidance =>
    intro c answer hb
    have hr := (List.mem_append.1 hb).resolve_right (not_mem_of_purposes ht (by decide) c answer)
    obtain ⟨hc, on, catalog, listed, hm⟩ := h.guidance c answer hr
    exact ⟨hc, on, catalog, listed, List.mem_append_left _ hm⟩
  case bound =>
    intro c answer hb
    have hr := (List.mem_append.1 hb).resolve_right (not_mem_of_purposes ht (by decide) c answer)
    exact h.bound c answer hr

/-- A call that failed is the last one of reading. -/
theorem Preparation.getLast?_of_failed {reads : List Beat}
    {r : Except PrepareError (Selection α) × RandomStream}
    (h : Preparation input settings retained stream reads r) {b : Beat} (hb : b ∈ reads)
    (hf : b.failed = true) : reads.getLast? = some b := by
  revert b
  rcases h with e | _ | ⟨listed, drawing⟩
  · simp
  · simp [Beat.failed]
  · rcases drawing with ⟨on, e⟩ | ⟨_ | ⟨on, s⟩, rfl, e⟩ | ⟨_ | ⟨on, s⟩, _ | _⟩ <;> simp [Beat.failed]

theorem choice_error {catalog : List Layer} {w : Whitelist} {plan : Plan} {policy : Policy}
    {e : PrepareError} {rest : RandomStream}
    (h : choice input catalog w plan policy stream = (.error e, rest)) : ∃ e', e = .choice e' := by
  unfold choice at h
  generalize selectPlan input.parameters input.history (withinWhitelist catalog w) plan policy
    stream = drawn at h
  obtain ⟨e' | selection, _⟩ := drawn
  · exact ⟨e', by cases h; rfl⟩
  · cases h

theorem Drawing.answered {catalog : List Layer} {gs ws : List Beat} {plan : Plan} {policy : Policy}
    {w : Whitelist} (guided : Guided settings gs plan policy)
    (bounded : Anchored .bound retained ws w) :
    ∀ b ∈ Beat.call .catalog .catalog (.ok catalog) :: (gs ++ ws), b.failed = false := by
  rcases guided with _ | ⟨on, s⟩ <;> rcases bounded with _ | _ <;> simp [Beat.failed]

/-- No call failed before a selection was made. -/
theorem Preparation.answered {reads : List Beat} {selection : Selection α} {rest : RandomStream}
    (h : Preparation input settings retained stream reads (.ok selection, rest)) :
    ∀ b ∈ reads, b.failed = false := by
  rcases h with _ | _ | ⟨listed, drawing⟩
  generalize hr : (Except.ok selection, rest) = r at drawing
  cases drawing with
  | guidanceFailed => cases hr
  | boundFailed => cases hr
  | chosen guided bounded => exact Drawing.answered guided bounded

/-- Without a selection, the error names the read that failed, or else why none was made. -/
theorem Preparation.told {reads : List Beat} {e : PrepareError} {rest : RandomStream}
    (h : Preparation input settings retained stream reads (.error e, rest)) :
    Told input settings retained stream reads (.selectionFailed e) := by
  have whole := h
  rcases h with e | _ | ⟨listed, drawing⟩
  · exact List.mem_singleton_self _
  · exact ⟨by simp [Beat.failed], _, whole⟩
  · generalize hr : (Except.error e, rest) = r at drawing
    cases drawing with
    | guidanceFailed on e' =>
      cases hr
      exact .tail _ (List.mem_singleton_self _)
    | boundFailed guided fresh e' =>
      cases hr
      exact .tail _ (List.mem_append_right _ (List.mem_singleton_self _))
    | chosen guided bounded =>
      obtain ⟨e', rfl⟩ := choice_error hr.symm
      exact ⟨Drawing.answered guided bounded, rest, whole⟩

/-! ## The law of the whole -/

/-- What was read first, up to a selection or its failure, is determined by a course. -/
theorem Preparation.unique {reads reads' bs : List Beat}
    {r r' : Except PrepareError (Selection α) × RandomStream}
    (h : Preparation input settings retained stream reads r)
    (h' : Preparation input settings retained stream reads' r') (hp : reads <+: bs)
    (hp' : reads' <+: bs) : reads = reads' ∧ r = r' := by
  obtain ⟨ht, hr⟩ := (path_prepare_iff (σ := Unit).2 ⟨reads, rfl, h⟩).unique
    (path_prepare_iff.2 ⟨reads', rfl, h'⟩) (hp.map Beat.move) (hp'.map Beat.move)
  have length : reads.length = reads'.length := by simpa using congrArg List.length ht
  exact ⟨(List.prefix_of_prefix_length_le hp hp' (Nat.le_of_eq length)).eq_of_length length, hr⟩

theorem Preparation.selected {reads : List Beat} {selection : Selection α} {rest : RandomStream}
    (h : Preparation input settings retained stream reads (.ok selection, rest)) (tail : List Beat) :
    Selected input settings retained stream (reads ++ tail) selection :=
  ⟨reads, rest, List.prefix_append _ _, h⟩

/-- A cycle that selects nothing keeps the law. -/
theorem Preparation.callLaw_unprepared {reads : List Beat} {e : PrepareError} {rest : RandomStream}
    (h : Preparation input settings retained stream reads (.error e, rest)) :
    CallLaw input settings retained stream reads (.selectionFailed e) where
  toReadLaw := h.readLaw
  ordered := h.purposes.trans (by decide)
  snapshot c answer hb := absurd hb (not_mem_of_purposes h.purposes (by decide) c answer)
  apply c answer hb := absurd hb (not_mem_of_purposes h.purposes (by decide) c answer)
  reset c answer hb := absurd hb (not_mem_of_purposes h.purposes (by decide) c answer)
  restore c answer hb := absurd hb (not_mem_of_purposes h.purposes (by decide) c answer)
  restored := by
    rintro selection w ⟨reads', rest', hp, h'⟩ _
    cases (h.unique h' (List.prefix_refl _) hp).2
  failedRead p c e' _ hb := ⟨h.getLast?_of_failed hb rfl, h.purposes.trans (by decide)⟩
  unselected _ := h.purposes
  told := h.told

/-- A cycle that selects, but cannot take a snapshot, keeps the law. -/
theorem Preparation.callLaw_unanchored {reads : List Beat} {selection : Selection α}
    {rest : RandomStream}
    (h : Preparation input settings retained stream reads (.ok selection, rest))
    (fresh : retained = none) (e : CallError) :
    CallLaw input settings retained stream (reads ++ [.call .snapshot .getWhitelist (.error e)])
      (.snapshotFailed e) := by
  have away {p : Purpose} (hp : p ∉ [Purpose.catalog, .guidance, .bound]) (c : Call)
      (answer : c.Answer) : .call p c answer ∉ reads := not_mem_of_purposes h.purposes hp c answer
  have ordered : (Swap.purposes (reads ++ [.call .snapshot .getWhitelist (.error e)])).Sublist
      [.catalog, .guidance, .bound, .snapshot] := by
    rw [purposes_append]
    exact h.purposes.append (List.Sublist.refl [Purpose.snapshot])
  refine ⟨h.readLaw.append (by simp), ordered.trans (by decide), ?snapshot, ?apply, ?reset, ?restore,
    ?restored, ?failedRead, ?unselected, ?told⟩
  case snapshot =>
    intro c answer hb
    obtain hs := List.mem_singleton.1 ((List.mem_append.1 hb).resolve_left (away (by decide) c answer))
    injection hs with _ hc
    exact ⟨hc, fresh⟩
  case apply => exact fun c answer hb => absurd hb (not_mem_of_purposes ordered (by decide) c answer)
  case reset => exact fun c answer hb => absurd hb (not_mem_of_purposes ordered (by decide) c answer)
  case restore =>
    exact fun c answer hb => absurd hb (not_mem_of_purposes ordered (by decide) c answer)
  case restored =>
    rintro selection w _ (kept | ⟨_, hb⟩)
    · rw [fresh] at kept
      cases kept
    · have hs := (List.mem_append.1 hb).resolve_left (away (by decide) _ _)
      cases List.mem_singleton.1 hs
  case failedRead =>
    intro p c e' _ hb
    refine ⟨?_, ordered⟩
    rcases List.mem_append.1 hb with hr | hs
    · cases h.answered _ hr
    · rw [List.mem_singleton.1 hs, List.getLast?_append]
      rfl
  case unselected => exact fun hn => absurd (h.selected _) (hn selection)
  case told => exact List.mem_append_right _ (List.mem_singleton_self _)

/-- What the outcome after the snapshot tells. -/
theorem told_ofRestore {bs : List Beat} {selection : Selection α}
    {result : Except (Phase × CallError) Unit} {answer : Except CallError Unit}
    (selected : Selected input settings retained stream bs selection) (restored : Restored bs answer)
    (narrowed : result = .ok () → Narrowed bs selection)
    (failed : ∀ phase e, result = .error (phase, e) → FailedIn bs phase e) :
    Told input settings retained stream bs (.ofRestore selection result answer) := by
  match result, answer with
  | .ok (), .ok () => exact ⟨selected, narrowed rfl, restored⟩
  | .ok (), .error _ => exact ⟨selected, narrowed rfl, restored⟩
  | .error (phase, e), .ok () => exact ⟨failed phase e rfl, restored⟩
  | .error (phase, e), .error _ => exact ⟨failed phase e rfl, restored⟩

/-- The parts of a course that comes to restoring the whitelist. -/
structure Swapped (input : Input α) (settings : Settings) (retained : Option Whitelist)
    (stream : RandomStream) (reads snap steps : List Beat) (selection : Selection α) (w : Whitelist)
    (result : Except (Phase × CallError) Unit) (answer : Except CallError Unit) (bs : List Beat) :
    Prop where
  preparation : ∃ rest, Preparation input settings retained stream reads (.ok selection, rest)
  anchored : Anchored .snapshot retained snap w
  forward : Forward selection steps result
  whole : bs = reads ++ snap ++ steps ++ [.call .restore (.setWhitelist w.layerIds) answer]

namespace Swapped

variable {reads snap steps bs : List Beat} {selection : Selection α} {w : Whitelist}
  {result : Except (Phase × CallError) Unit} {answer : Except CallError Unit}
  (h : Swapped input settings retained stream reads snap steps selection w result answer bs)

include h

theorem mem_iff {b : Beat} : b ∈ bs ↔ b ∈ reads ∨ b ∈ snap ∨ b ∈ steps ∨
    b = .call .restore (.setWhitelist w.layerIds) answer := by
  rw [h.whole, List.mem_append, List.mem_append, List.mem_append, List.mem_singleton, or_assoc,
    or_assoc]

theorem purposes_reads : (Swap.purposes reads).Sublist [.catalog, .guidance, .bound] := by
  obtain ⟨rest, preparation⟩ := h.preparation
  exact preparation.purposes

theorem ordered : (Swap.purposes bs).Sublist Purpose.all := by
  rw [h.whole, purposes_append, purposes_append, purposes_append]
  exact ((h.purposes_reads.append h.anchored.purposes).append h.forward.purposes).append
    (List.Sublist.refl [Purpose.restore])

theorem readLaw : ReadLaw settings retained bs := by
  obtain ⟨rest, preparation⟩ := h.preparation
  rw [h.whole, List.append_assoc, List.append_assoc]
  refine preparation.readLaw.append ?_
  rw [purposes_append, purposes_append]
  exact h.anchored.purposes.append (h.forward.purposes.append (List.Sublist.refl [Purpose.restore]))

theorem selected : Selected input settings retained stream bs selection := by
  obtain ⟨rest, preparation⟩ := h.preparation
  rw [h.whole, List.append_assoc, List.append_assoc]
  exact preparation.selected _

/-! Each purpose belongs to one part of the course. -/

theorem notMem_reads {p : Purpose} (hp : p ∉ [Purpose.catalog, .guidance, .bound]) (c : Call)
    (a : c.Answer) : .call p c a ∉ reads := not_mem_of_purposes h.purposes_reads hp c a

theorem notMem_snap {p : Purpose} (hp : p ∉ [Purpose.snapshot]) (c : Call) (a : c.Answer) :
    .call p c a ∉ snap := not_mem_of_purposes h.anchored.purposes hp c a

theorem notMem_steps {p : Purpose} (hp : p ∉ [Purpose.apply, .reset]) (c : Call) (a : c.Answer) :
    .call p c a ∉ steps := not_mem_of_purposes h.forward.purposes hp c a

theorem snapshot_mem {c : Call} {a : c.Answer} (hb : .call .snapshot c a ∈ bs) :
    .call .snapshot c a ∈ snap := by
  rcases h.mem_iff.1 hb with hr | hs | hf | hw
  · exact absurd hr (h.notMem_reads (by decide) c a)
  · exact hs
  · exact absurd hf (h.notMem_steps (by decide) c a)
  · cases hw

/-- A step forward is one of the steps forward. -/
theorem forward_mem {p : Purpose} (hp : p ∈ [Purpose.apply, .reset]) {c : Call} {a : c.Answer}
    (hb : .call p c a ∈ bs) : .call p c a ∈ steps := by
  have others : p ∉ [Purpose.catalog, .guidance, .bound] ∧ p ∉ [Purpose.snapshot] ∧ p ≠ .restore := by
    revert hp
    cases p <;> decide
  rcases h.mem_iff.1 hb with hr | hs | hf | hw
  · exact absurd hr (h.notMem_reads others.1 c a)
  · exact absurd hs (h.notMem_snap others.2.1 c a)
  · exact hf
  · injection hw with hq
    exact absurd hq others.2.2

theorem restore_eq {c : Call} {a : c.Answer} (hb : .call .restore c a ∈ bs) :
    Beat.call .restore c a = .call .restore (.setWhitelist w.layerIds) answer := by
  rcases h.mem_iff.1 hb with hr | hs | hf | hw
  · exact absurd hr (h.notMem_reads (by decide) c a)
  · exact absurd hs (h.notMem_snap (by decide) c a)
  · exact absurd hf (h.notMem_steps (by decide) c a)
  · exact hw

theorem getLast?_eq : bs.getLast? = some (.call .restore (.setWhitelist w.layerIds) answer) := by
  rw [h.whole, List.getLast?_append]
  rfl

/-- The whitelist to restore was retained, or is the one of the snapshot. -/
theorem obtained_iff {w' : Whitelist} : Obtained retained bs w' ↔ w' = w := by
  constructor
  · rintro (kept | ⟨fresh, hb⟩)
    · cases h.anchored <;> cases kept
      rfl
    · have hs := h.snapshot_mem hb
      cases h.anchored <;> cases fresh
      cases List.mem_singleton.1 hs
      rfl
  · rintro rfl
    have mem : ∀ b ∈ snap, b ∈ bs := fun b hb => h.mem_iff.2 (.inr (.inl hb))
    cases h.anchored with
    | kept => exact .inl rfl
    | read => exact .inr ⟨rfl, mem _ (List.mem_singleton_self _)⟩

/-- No read failed. -/
theorem notMem_failed {p : Purpose} (hp : p ∈ Purpose.reads) (c : Call) (e : CallError) :
    .call p c (.error e) ∉ bs := by
  have changing : p ∉ [Purpose.apply, .reset] ∧ p ≠ .restore := by
    revert hp
    cases p <;> decide
  intro hb
  rcases h.mem_iff.1 hb with hr | hs | hf | hw
  · obtain ⟨rest, preparation⟩ := h.preparation
    cases preparation.answered _ hr
  · cases h.anchored with
    | kept => cases hs
    | read => cases List.mem_singleton.1 hs
  · exact absurd hf (h.notMem_steps changing.1 c _)
  · injection hw with hq
    exact absurd hq changing.2

theorem told : Told input settings retained stream bs (.ofRestore selection result answer) := by
  refine told_ofRestore h.selected ⟨_, h.mem_iff.2 (.inr (.inr (.inr rfl)))⟩ ?narrowed ?failed
  case narrowed =>
    rintro rfl
    obtain ⟨applied, reset⟩ := h.forward.narrowed
    exact ⟨h.mem_iff.2 (.inr (.inr (.inl applied))), h.mem_iff.2 (.inr (.inr (.inl reset)))⟩
  case failed =>
    rintro phase e rfl
    have before : (Swap.purposes (reads ++ snap)).Sublist Purpose.reads := by
      rw [purposes_append]
      exact h.purposes_reads.append h.anchored.purposes
    rw [h.whole]
    exact h.forward.failedIn.within before (List.Sublist.refl [Purpose.restore])

/-- A cycle that comes to restoring the whitelist keeps the law. -/
theorem callLaw : CallLaw input settings retained stream bs (.ofRestore selection result answer) where
  toReadLaw := h.readLaw
  ordered := h.ordered
  snapshot c a hb := by
    have hs := h.snapshot_mem hb
    cases h.anchored with
    | kept => cases hs
    | read =>
      injection List.mem_singleton.1 hs with _ hc
      exact ⟨hc, rfl⟩
  apply c a hb := ⟨selection, h.selected, h.forward.apply (h.forward_mem (by decide) hb)⟩
  reset c a hb := by
    obtain ⟨hc, applied⟩ := h.forward.reset (h.forward_mem (by decide) hb)
    exact ⟨hc, _, h.mem_iff.2 (.inr (.inr (.inl applied)))⟩
  restore c a hb := by
    rw [h.restore_eq hb]
    refine ⟨h.getLast?_eq, ⟨selection, h.selected⟩, w, h.obtained_iff.2 rfl, ?_⟩
    injection h.restore_eq hb
  restored selection' w' _ obtained := by
    rw [h.obtained_iff.1 obtained]
    exact ⟨answer, h.mem_iff.2 (.inr (.inr (.inr rfl)))⟩
  failedRead p c e hp hb := absurd hb (h.notMem_failed hp c e)
  unselected none := absurd h.selected (none selection)
  told := h.told

end Swapped

theorem Course.callLaw {bs : List Beat} {ending : Ending α}
    (h : Course input settings retained stream bs ending) :
    CallLaw input settings retained stream bs ending.outcome := by
  cases h with
  | unprepared preparation => exact preparation.callLaw_unprepared
  | unanchored preparation fresh e => exact preparation.callLaw_unanchored fresh e
  | swapped preparation anchored forward answer =>
    exact Swapped.callLaw ⟨⟨_, preparation⟩, anchored, forward, rfl⟩

/-- **The calls of a cycle keep the law.** Whatever the state it was started in, the answers of the
remote tool and the times of a shutdown: a cycle that entered makes the calls of one course between
entering and leaving, in the order of their purposes, and its report tells of the first step that
failed and of the restore. -/
theorem runExclusive_calls {part : σ → State} {replace : σ → State → σ} {t : List (Move σ)}
    {report : Report α}
    (path : Path (runExclusive host (Process.partCell part replace) input settings stream) t
      (.ok report)) :
    ∃ s bs ending kept seen left, (part s).busy = false ∧
      t = .exchanged s (replace s (part s).entered) :: (bs.map Beat.move ++
        [.exchanged kept (replace kept ((part kept).remember ending.outcome.kind ending.baseline)),
          .exchanged seen seen, .exchanged left (replace left (part left).leave)]) ∧
      Course input settings (part s).retained stream bs ending ∧ report.outcome = ending.outcome ∧
      CallLaw input settings (part s).retained stream bs report.outcome := by
  rcases path_runExclusive_iff.1 path with
    ⟨_, _, _, h⟩ | ⟨s, bs, ending, kept, seen, left, idle, course, rfl, h⟩
  · cases h
  · obtain rfl := Except.ok.inj h
    exact ⟨s, bs, ending, kept, seen, left, idle, rfl, course, rfl, course.callLaw⟩

end

/-! ### A cycle that could not restore -/

/-- A layer. -/
def soleLayer : Layer := ⟨"foy_warfare", "foy", .day, .warfare, none⟩

/-- A whitelist of that layer and another. -/
def soleWhitelist : Whitelist := ⟨["foy_warfare", "stmereeglise_warfare"]⟩

/-- An input whose parameters list the map and the environment of that layer. -/
def soleInput : Input Rat :=
  ⟨⟨[⟨"Top", 80, 1 / 2, ["foy"]⟩], [⟨"Day", 100, 1 / 10, [.day]⟩]⟩, 1, .empty, none⟩

/-- Settings that ask for one layer, and not for the settings of the remote tool. -/
def soleSettings : Settings := { plan := Plan.empty.set .warfare 1, useRemoteSettings := false }

/-- Random words. -/
def soleStream : RandomStream := ⟨fun _ => 0, 0⟩

/-- A cycle that puts the layer on the whitelist, whose reset is refused and whose restore is not
answered. -/
def soleBeats : List Beat :=
  [.call .catalog .catalog (.ok [soleLayer]), .call .bound .getWhitelist (.ok soleWhitelist),
    .call .snapshot .getWhitelist (.ok soleWhitelist), .poll false,
    .call .apply (.setWhitelist [soleLayer.id]) (.ok ()), .settle false,
    .call .reset .reset (.error (.rejected "reset_votemap_state" "no vote")),
    .call .restore (.setWhitelist soleWhitelist.layerIds)
      (.error (.transport "set_votemap_whitelist" "timed out"))]

theorem choice_sole : ∃ rest,
    choice soleInput [soleLayer] soleWhitelist soleSettings.plan soleSettings.policy soleStream =
      (.ok ⟨[⟨soleLayer, 8000⟩]⟩, rest) := by
  have drawn : (choice soleInput [soleLayer] soleWhitelist soleSettings.plan soleSettings.policy
      soleStream).1.toOption = some ⟨[⟨soleLayer, 8000⟩]⟩ := by decide +kernel
  revert drawn
  generalize choice soleInput [soleLayer] soleWhitelist soleSettings.plan soleSettings.policy
    soleStream = r
  obtain ⟨_ | selection, rest⟩ := r
  · rintro ⟨⟩
  · rintro ⟨⟩
    exact ⟨rest, rfl⟩

/-- Reading and selecting, if nothing is retained. -/
theorem preparation_sole : ∃ rest, Preparation soleInput soleSettings none soleStream
    [.call .catalog .catalog (.ok [soleLayer]), .call .bound .getWhitelist (.ok soleWhitelist)]
    (.ok ⟨[⟨soleLayer, 8000⟩]⟩, rest) := by
  obtain ⟨rest, chosen⟩ := choice_sole
  have drawing : Drawing soleInput soleSettings none [soleLayer] soleStream _ _ :=
    .chosen (.own rfl) (.read soleWhitelist)
  rw [chosen] at drawing
  exact ⟨rest, .catalogListed (by decide) drawing⟩

theorem course_sole : ∃ rest, Course soleInput soleSettings none soleStream soleBeats
    ⟨.applyFailedUnrecovered .resetting (.rejected "reset_votemap_state" "no vote")
      (.transport "set_votemap_whitelist" "timed out"), some soleWhitelist, rest⟩ := by
  obtain ⟨rest, preparation⟩ := preparation_sole
  exact ⟨rest, .swapped preparation (.read soleWhitelist) (.applied (.refused _)) (.error _)⟩

theorem runExclusive_calls_unrecovered :
    ∃ t report bs,
      Path (runExclusive host Process.cell soleInput soleSettings soleStream) t (.ok report) ∧
      report.outcome.kind = .applyFailedUnrecovered ∧
      CallLaw soleInput soleSettings none soleStream bs report.outcome := by
  obtain ⟨rest, course⟩ := course_sole
  have path : Path (runExclusive host Process.cell soleInput soleSettings soleStream) _ _ :=
    path_runExclusive_iff.2 (.inr ⟨{}, _, _, {}, {}, {}, rfl, course, rfl, rfl⟩)
  obtain ⟨s, bs, _, _, _, _, _, ht, _, _, law⟩ := runExclusive_calls path
  injection ht with ht
  injection ht with ht
  obtain rfl : ({} : State) = s := ht
  exact ⟨_, _, bs, path, rfl, law⟩

end MapBallot.Swap
