import MapBallot.Proofs.Swap.Baseline
import MapBallot.Proofs.Swap.Offer

/-!
# `MapBallot.Proofs.Swap.Bound` — what can be voted on does not shrink

As long as a narrowed list stands in place of the whitelist, a cycle that read it and selected within it
would offer less than the one before, and leave less to the next. This module states that this does not
happen: whatever earlier cycles left behind, everybody selects within the original whitelist, so a
selection is the same as if no earlier cycle had failed.

## Contents

* `Kept.bound` — the whitelist of an offer is the original one; `Offered.untouched` — a preview that
  comes to an offer without any earlier cycle;
* `Course.replaces`, `Kept.replaces` — what cycles and previews put on the whitelist;
* `Unshrunk` — what is known of a cycle or a preview that selects;
* `session_bound` — it holds in every session, and selections do not depend on the session.
-/

namespace MapBallot.Swap

open Remote (Call CallError Whitelist)
open Process (Path host)

variable {α : Type}

/-! ## The whitelist of an offer -/

/-- **Whoever draws, draws within the original whitelist.** -/
theorem Kept.bound {w₀ : List String} {w x : World} (h : Kept w₀ w) {settings : Settings}
    {t : List (Move State)} {o : Offer} (draws : DrawsFrom id settings t o)
    (effects : Effects t w x) : o.bound = ⟨w₀⟩ := by
  obtain ⟨s, s', reads, tail, rfl, offered⟩ := draws
  obtain ⟨v, head, rest⟩ := effects_cons_iff.1 effects
  obtain ⟨rfl, rfl⟩ := effect_exchanged_iff.1 head
  obtain ⟨u, asked, _⟩ := effects_append_iff.1 rest
  cases offered with
  | @told catalog gs ws plan policy _ listed guided bounded =>
    -- The catalog and the settings are asked for before the whitelist is.
    have reading : OnlyReads (.call .catalog .catalog (.ok catalog) :: gs) :=
      onlyReads_cons_iff.2 ⟨rfl, guided.onlyReads⟩
    exact bounded.original reading asked h.known h.back

/-- The layers that a whitelist lists are offered in the order of the catalog, with its repetitions. -/
theorem Offer.layers_eq {o : Offer} {w₀ : List String} (h : o.bound = ⟨w₀⟩) :
    o.layers = o.catalog.filter fun l => w₀.contains l.id := by
  unfold Offer.layers
  rw [h]
  rfl

section

variable [Scalar α] {input : Input α} {settings : Settings} {stream : RandomStream}

/-- If nothing is retained and the remote tool holds the whitelist of an offer, then a preview comes to
that offer, and leaves everything as it is. -/
theorem Offered.untouched {retained : Option Whitelist} {reads : List Beat} {o : Offer}
    (h : Offered settings retained reads o) (input : Input α) (stream : RandomStream) :
    ∃ t, Path (preview host Process.cell input settings stream) t
        ((o.draw input stream).mapError .choice) ∧
      Effects t ⟨o.bound.layerIds, {}⟩ ⟨o.bound.layerIds, {}⟩ ∧ DrawsFrom id settings t o := by
  cases h with
  | @told catalog gs ws plan policy w listed guided bounded =>
    have offered : Offered settings ({} : State).retained _ ⟨catalog, w, plan, policy⟩ :=
      .told listed guided (.read w)
    obtain ⟨path, draws⟩ := Offered.path_preview id (fun _ s => s) offered input stream
    refine ⟨_, path, ?_, draws⟩
    refine .cons (effect_exchanged_iff.2 ⟨rfl, rfl⟩) (.cons (.catalog _ _) ?_)
    cases guided with
    | own => exact .cons (.got ⟨w.layerIds, {}⟩) (.nil _)
    | remote on s => exact .cons (.settings _ _) (.cons (.got ⟨w.layerIds, {}⟩) (.nil _))

end

/-! ## What is put on the whitelist -/

/-- The only list that the steps forward put on the whitelist is the selection. -/
theorem Forward.replaces {selection : Selection α} {steps : List Beat}
    {r : Except (Phase × CallError) Unit} (h : Forward selection steps r) {ids : List String}
    {a : Except CallError Unit}
    (hm : .answered (.setWhitelist ids) a ∈ steps.map (Beat.move (σ := State))) :
    ids = selection.layerIds := by
  rcases h with _ | e | ⟨_ | e | _⟩ <;> simp [Beat.move] at hm <;> exact hm.1

section

variable [Scalar α] {input : Input α} {settings : Settings} {retained : Option Whitelist}
  {stream : RandomStream}

/-- **A course puts nothing on the whitelist but its selection and the original list.** -/
theorem Course.replaces {w₀ : List String} {bs : List Beat} {ending : Ending α} {w x : World}
    (h : Course input settings retained stream bs ending) (effects : Effects (bs.map Beat.move) w x)
    (known : retained = none ∨ retained = some ⟨w₀⟩) (back : retained = none → w.layerIds = w₀)
    {ids : List String} {a : Except CallError Unit}
    (hm : .answered (.setWhitelist ids) a ∈ bs.map (Beat.move (σ := State))) :
    ids = w₀ ∨ ∃ selection, Selected input settings retained stream bs selection ∧
      ids = selection.layerIds := by
  cases h with
  | unprepared preparation => exact absurd hm (preparation.onlyReads.not_replaced ids a)
  | unanchored preparation fresh e =>
    have reading : OnlyReads (_ ++ [.call .snapshot .getWhitelist (.error e)]) :=
      onlyReads_append_iff.2 ⟨preparation.onlyReads, by simp [OnlyReads, Beat.reads]⟩
    exact absurd hm (reading.not_replaced ids a)
  | @swapped reads snap steps selection _ snapshot _ preparation anchored forward answer =>
    have selected := preparation.selected (snap ++ steps ++
      [.call .restore (.setWhitelist snapshot.layerIds) answer])
    rw [List.map_append, List.map_append, effects_append_iff] at effects
    obtain ⟨y, before, last⟩ := effects
    obtain ⟨v, asked, _⟩ := effects_append_iff.1 before
    obtain rfl := anchored.original preparation.onlyReads asked known back
    have reading : OnlyReads (reads ++ snap) :=
      onlyReads_append_iff.2 ⟨preparation.onlyReads, anchored.onlyReads⟩
    rw [List.map_append, List.map_append] at hm
    rcases List.mem_append.1 hm with hm | restored
    · rcases List.mem_append.1 hm with read | stepped
      · exact absurd read (reading.not_replaced ids a)
      · exact .inr ⟨selection, by simpa using selected, forward.replaces stepped⟩
    · cases List.mem_singleton.1 restored
      exact .inl rfl

variable {w₀ : List String} {w x : World} {t : List (Move State)}
  {r : Except PrepareError (Selection α)}

/-- **Nothing is put on the whitelist but a selection and the original list.** -/
theorem Kept.replaces (h : Kept w₀ w)
    (selects : Selects id (fun _ s => s) input settings stream t r) (effects : Effects t w x)
    {ids : List String} {a : Except CallError Unit} (hm : .answered (.setWhitelist ids) a ∈ t) :
    ids = w₀ ∨ ∃ selection, r = .ok selection ∧ ids = selection.layerIds := by
  have selected := selects
  cases selects with
  | preview path =>
    obtain ⟨s, reads, _, rfl, preparation⟩ := path_preview_iff.1 path
    have asked := (List.mem_cons.1 hm).resolve_left (by simp)
    exact absurd asked (preparation.onlyReads.not_replaced ids a)
  | cycle path selecting =>
    rcases path_runExclusive_iff.1 path with
      ⟨_, _, told, _⟩ | ⟨s, bs, ending, kept, seen, left, _, course, told, _⟩
    · rw [told] at hm
      cases List.mem_singleton.1 hm
    · rw [told] at hm effects selected
      obtain ⟨v, head, rest⟩ := effects_cons_iff.1 effects
      obtain ⟨rfl, rfl⟩ := effect_exchanged_iff.1 head
      obtain ⟨u, done, _⟩ := effects_append_iff.1 rest
      have made : .answered (.setWhitelist ids) a ∈ bs.map (Beat.move (σ := State)) := by
        simpa using hm
      rcases course.replaces done h.known h.back made with
        original | ⟨selection, ⟨reads, _, ⟨more, rfl⟩, preparation⟩, rfl⟩
      · exact .inl original
      · rw [List.map_append, List.append_assoc] at selected
        exact .inr ⟨selection, selected.eq_of_preparation rfl preparation, rfl⟩

/-! ## Sessions -/

/-- What is known of a cycle or a preview that selects, if the original whitelist is `w₀`. -/
structure Unshrunk (w₀ : List String) (input : Input α) (settings : Settings) (stream : RandomStream)
    (t : List (Move State)) (r : Except PrepareError (Selection α)) : Prop where
  /-- It draws from exactly the layers of the catalog that the original whitelist lists. -/
  drawn : ∀ o, DrawsFrom id settings t o → r = (selectPlan input.parameters input.history
    (o.catalog.filter fun l => w₀.contains l.id) o.plan o.policy stream).1.mapError .choice
  /-- It draws, unless a read failed or the catalog is empty. -/
  unread : (¬ ∃ o, DrawsFrom id settings t o) → Unread r
  /-- No id is selected twice, and each one is in the catalog and in the original whitelist. -/
  distinct : ∀ selection, r = .ok selection → selection.layerIds.Nodup
  listed : ∀ selection, r = .ok selection → ∀ i ∈ selection.layerIds,
    i ∈ w₀ ∧ ∃ o, DrawsFrom id settings t o ∧ ∃ l ∈ o.catalog, l.id = i
  /-- Nothing is put on the whitelist but the selection and the original list. -/
  replaces : ∀ ids a, .answered (.setWhitelist ids) a ∈ t →
    ids = w₀ ∨ ∃ selection, r = .ok selection ∧ ids = selection.layerIds
  /-- A preview of a remote tool that no cycle has touched can be told the same, and then answers the
  same. -/
  untouched : ∀ o, DrawsFrom id settings t o →
    ∃ u, Path (preview host Process.cell input settings stream) u r ∧
      Effects u ⟨w₀, {}⟩ ⟨w₀, {}⟩ ∧ DrawsFrom id settings u o

theorem Kept.unshrunk (h : Kept w₀ w)
    (selects : Selects id (fun _ s => s) input settings stream t r) (effects : Effects t w x) :
    Unshrunk w₀ input settings stream t r where
  drawn o draws := by
    rw [← Offer.layers_eq (h.bound draws effects)]
    exact selects.eq_draw draws
  unread none := selects.drawn_or_unread.resolve_left fun ⟨o, draws, _⟩ => none ⟨o, draws⟩
  distinct := by
    rintro selection rfl
    obtain ⟨o, _, drawn⟩ := selects.drawn
    exact layerIds_nodup_of_selectPlan drawn
  listed := by
    rintro selection rfl i hi
    obtain ⟨o, draws, drawn⟩ := selects.drawn
    obtain ⟨s, hs, rfl⟩ := List.mem_map.1 hi
    have offered : s.layer ∈ o.layers := (List.mem_filter.1 (layer_mem_of_selectPlan drawn hs)).1
    rw [Offer.layers_eq (h.bound draws effects)] at offered
    obtain ⟨known, original⟩ := List.mem_filter.1 offered
    exact ⟨by simpa using original, o, draws, s.layer, known, rfl⟩
  replaces _ _ hm := h.replaces selects effects hm
  untouched o draws := by
    have same := selects.eq_draw draws
    have bound := h.bound draws effects
    obtain ⟨_, _, _, _, _, offered⟩ := draws
    obtain ⟨u, path, none, again⟩ := offered.untouched input stream
    rw [bound] at none
    exact ⟨u, same ▸ path, none, again⟩

/-- **What can be voted on does not shrink.** However many cycles and previews there were, with whatever
failures and shutdowns, a cycle or a preview selects within the original whitelist; and if one in
another session is told the same catalog, plan and policy, then the same comes of it. -/
theorem session_bound {past : List (Answer α × World)} (session : Session w₀ past w)
    (selects : Selects id (fun _ s => s) input settings stream t r) (effects : Effects t w x) :
    Unshrunk w₀ input settings stream t r ∧
    ∀ (past' : List (Answer α × World)) (w' x' : World) (input' : Input α) (settings' : Settings)
      (t' : List (Move State)) (r' : Except PrepareError (Selection α)) (o o' : Offer),
      Session w₀ past' w' → Selects id (fun _ s => s) input' settings' stream t' r' →
      Effects t' w' x' → DrawsFrom id settings t o → DrawsFrom id settings' t' o' →
      input'.parameters = input.parameters → input'.history = input.history →
      o'.catalog = o.catalog → o'.plan = o.plan → o'.policy = o.policy → r' = r := by
  refine ⟨session.kept.unshrunk selects effects, ?_⟩
  intro past' w' x' input' settings' t' r' o o' session' selects' effects' draws draws' parameters
    history catalog plan policy
  have law := (session.kept.unshrunk selects effects).drawn o draws
  have law' := (session'.kept.unshrunk selects' effects').drawn o' draws'
  rw [law', law, parameters, history, catalog, plan, policy]

end

/-- After a cycle that could not restore, when the remote tool holds one layer, a preview still selects
within the original whitelist. -/
theorem session_bound_narrowed :
    ∃ (past : List (Answer Rat × World)) (w : World) (t : List (Move State))
      (selection : Selection Rat), Session soleWhitelist.layerIds past w ∧
      w.layerIds = [soleLayer.id] ∧
      Selects id (fun _ s => s) soleInput soleSettings soleStream t (.ok selection) ∧
      Unshrunk soleWhitelist.layerIds soleInput soleSettings soleStream t (.ok selection) := by
  obtain ⟨past, session⟩ := session_sole
  obtain ⟨rest, chosen⟩ := choice_sole
  have listed : [soleLayer] ≠ [] := by decide
  have offered : Offered soleSettings soleWorld.state.retained _ _ :=
    .told listed (.own rfl) (.kept soleWhitelist)
  have drawn : Offer.draw ⟨[soleLayer], soleWhitelist, soleSettings.plan, soleSettings.policy⟩ soleInput
      soleStream = .ok _ := mapError_eq_ok (congrArg Prod.fst chosen).symm
  have path := (Offered.path_preview id (fun _ s => s) offered soleInput soleStream).1
  have effects : Effects _ soleWorld soleWorld :=
    .cons (.exchanged soleWorld soleWorld.state) (.cons (.catalog _ (.ok [soleLayer])) (.nil _))
  rw [drawn] at path
  exact ⟨past, _, _, _, session, rfl, .preview path,
    (session_bound session (.preview path) effects).1⟩

end MapBallot.Swap
