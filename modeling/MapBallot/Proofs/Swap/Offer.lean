import MapBallot.Proofs.Selection.Chosen
import MapBallot.Proofs.Swap.CallOrder

/-!
# `MapBallot.Proofs.Swap.Offer` — what cycles and previews draw from

A cycle and a preview select in the same way: they read a catalog, the settings and a whitelist, unless
these are known already, and draw from what they were told. What they were told is the offer. It
determines what is drawn, so a statement about selections is a statement about offers.

## Contents

* `Offer`, `Offered` — what is drawn from, and the reads that come to it;
* `Selects` — a cycle or a preview that selected, with what came of it;
* `DrawsFrom`, `DrawsFrom.unique` — the offer of a cycle or a preview; `Offered.path_preview` — every
  offer is one of some preview;
* `Selects.drawn_or_unread`, `Selects.eq_draw` — what comes of selecting is what is drawn from the offer.
-/

namespace MapBallot.Swap

open Remote (Call CallError Whitelist)
open Process (Path host)

variable {α σ : Type}

/-! ## Offers -/

/-- What a selection is drawn from. -/
structure Offer where
  /-- The layers that the remote tool knows. -/
  catalog : List Layer
  /-- The whitelist that bounds the selection. -/
  bound : Whitelist
  plan : Plan
  policy : Policy

namespace Offer

/-- The layers that are offered. -/
def layers (o : Offer) : List Layer := withinWhitelist o.catalog o.bound

/-- What is drawn. -/
def draw [Scalar α] (o : Offer) (input : Input α) (stream : RandomStream) :
    Except SelectionError (Selection α) :=
  (selectPlan input.parameters input.history o.layers o.plan o.policy stream).1

end Offer

/-- The reads that come to an offer. -/
inductive Offered (settings : Settings) (retained : Option Whitelist) : List Beat → Offer → Prop
  | told {catalog : List Layer} {gs ws : List Beat} {plan : Plan} {policy : Policy} {w : Whitelist}
      (listed : catalog ≠ []) (guided : Guided settings gs plan policy)
      (bounded : Anchored .bound retained ws w) :
      Offered settings retained (.call .catalog .catalog (.ok catalog) :: (gs ++ ws))
        ⟨catalog, w, plan, policy⟩

/-- Nothing was drawn: a read failed, or the catalog is empty. -/
inductive Unread : Except PrepareError (Selection α) → Prop
  | catalog (e : CallError) : Unread (.error (.catalog e))
  | settings (e : CallError) : Unread (.error (.settings e))
  | whitelist (e : CallError) : Unread (.error (.whitelist e))
  | empty : Unread (.error (.choice .emptyCatalog))

section

variable [Scalar α] {input : Input α} {settings : Settings} {retained : Option Whitelist}
  {stream : RandomStream} {reads : List Beat} {o : Offer}

theorem Offered.preparation (h : Offered settings retained reads o) (input : Input α)
    (stream : RandomStream) : Preparation input settings retained stream reads
      (choice input o.catalog o.bound o.plan o.policy stream) := by
  cases h with
  | told listed guided bounded => exact .catalogListed listed (.chosen guided bounded)

/-- Whoever comes to an offer selects what is drawn from it. -/
theorem Offered.preparation_ok {input : Input α} {stream : RandomStream} {selection : Selection α}
    (h : Offered settings retained reads o) (drawn : o.draw input stream = .ok selection) :
    ∃ rest, Preparation input settings retained stream reads (.ok selection, rest) := by
  have preparation := h.preparation input stream
  have chosen : (choice input o.catalog o.bound o.plan o.policy stream).1 = .ok selection :=
    congrArg (Except.mapError PrepareError.choice) drawn
  rw [← chosen]
  exact ⟨_, preparation⟩

/-- Reading and selecting comes to an offer and draws from it, unless a read failed or the catalog is
empty. -/
theorem Preparation.offered_or_unread {r : Except PrepareError (Selection α)} {rest : RandomStream}
    (h : Preparation input settings retained stream reads (r, rest)) :
    (∃ o, Offered settings retained reads o ∧ r = (o.draw input stream).mapError .choice) ∨
      Unread r := by
  cases h with
  | catalogFailed e => exact .inr (.catalog e)
  | catalogEmpty => exact .inr .empty
  | catalogListed listed drawing =>
    generalize hr : (r, rest) = result at drawing
    cases drawing with
    | guidanceFailed _ e =>
      cases hr
      exact .inr (.settings e)
    | boundFailed _ _ e =>
      cases hr
      exact .inr (.whitelist e)
    | chosen guided bounded =>
      exact .inl ⟨_, .told listed guided bounded, congrArg Prod.fst hr⟩

end

/-! ## The offer is determined by what was told -/

theorem Guided.unique {settings : Settings} {gs gs' : List Beat} {plan plan' : Plan}
    {policy policy' : Policy} {u u' : List (Move σ)} (h : Guided settings gs plan policy)
    (h' : Guided settings gs' plan' policy')
    (same : gs.map Beat.move ++ u = gs'.map Beat.move ++ u') :
    plan = plan' ∧ policy = policy' ∧ u = u' := by
  cases h with
  | own off =>
    cases h' with
    | own => exact ⟨rfl, rfl, same⟩
    | remote on => cases off.symm.trans on
  | remote on =>
    cases h' with
    | own off => cases off.symm.trans on
    | remote =>
      obtain ⟨hs, hu⟩ := List.cons.inj same
      cases hs
      exact ⟨rfl, rfl, hu⟩

theorem Anchored.unique {purpose : Purpose} {retained : Option Whitelist} {ws ws' : List Beat}
    {w w' : Whitelist} {u u' : List (Move σ)} (h : Anchored purpose retained ws w)
    (h' : Anchored purpose retained ws' w')
    (same : ws.map Beat.move ++ u = ws'.map Beat.move ++ u') : w = w' := by
  cases h with
  | kept =>
    cases h'
    rfl
  | read =>
    cases h'
    obtain ⟨hs, _⟩ := List.cons.inj same
    cases hs
    rfl

theorem Offered.unique {settings : Settings} {retained : Option Whitelist} {reads reads' : List Beat}
    {o o' : Offer} {u u' : List (Move σ)} (h : Offered settings retained reads o)
    (h' : Offered settings retained reads' o')
    (same : reads.map Beat.move ++ u = reads'.map Beat.move ++ u') : o = o' := by
  cases h with
  | told listed guided bounded =>
    cases h' with
    | told listed' guided' bounded' =>
      obtain ⟨hc, rest⟩ := List.cons.inj same
      cases hc
      simp only [List.append_eq, List.map_append, List.append_assoc] at rest
      obtain ⟨rfl, rfl, rest⟩ := guided.unique guided' rest
      obtain rfl := bounded.unique bounded' rest
      rfl

/-! ## Cycles and previews -/

/-- A cycle or a preview drew from an offer. Its first step tells what was retained. -/
def DrawsFrom (part : σ → State) (settings : Settings) (t : List (Move σ)) (o : Offer) : Prop :=
  ∃ s s' reads tail, t = .exchanged s s' :: (reads.map Beat.move ++ tail) ∧
    Offered settings (part s).retained reads o

theorem DrawsFrom.unique {part : σ → State} {settings : Settings} {t : List (Move σ)} {o o' : Offer}
    (h : DrawsFrom part settings t o) (h' : DrawsFrom part settings t o') : o = o' := by
  obtain ⟨s, _, reads, tail, rfl, offered⟩ := h
  obtain ⟨_, _, reads', tail', same, offered'⟩ := h'
  obtain ⟨hs, rest⟩ := List.cons.inj same
  cases hs
  exact offered.unique offered' rest

section

variable [Scalar α]

/-- A cycle or a preview selected, and this came of it. -/
inductive Selects (part : σ → State) (replace : σ → State → σ) (input : Input α)
    (settings : Settings) (stream : RandomStream) :
    List (Move σ) → Except PrepareError (Selection α) → Prop
  /-- A preview answers what comes of selecting. -/
  | preview {t : List (Move σ)} {r : Except PrepareError (Selection α)}
      (path : Path (preview host (Process.partCell part replace) input settings stream) t r) :
      Selects part replace input settings stream t r
  /-- A cycle selects when it has entered, whatever else it does afterwards. -/
  | cycle {s : σ} {u tail : List (Move σ)} {answer : Except Busy (Report α)}
      {r : Except PrepareError (Selection α)} {rest : RandomStream}
      (path : Path (runExclusive host (Process.partCell part replace) input settings stream)
        (.exchanged s (replace s (part s).entered) :: (u ++ tail)) answer)
      (selecting : Path ((prepare input settings (part s).retained stream).runOn host) u (r, rest)) :
      Selects part replace input settings stream
        (.exchanged s (replace s (part s).entered) :: (u ++ tail)) r

variable {part : σ → State} {replace : σ → State → σ} {input : Input α} {settings : Settings}
  {stream : RandomStream} {t : List (Move σ)} {r : Except PrepareError (Selection α)}

/-- Each offer is drawn from by some preview. -/
theorem Offered.path_preview (part : σ → State) (replace : σ → State → σ) {s : σ}
    {reads : List Beat} {o : Offer} (h : Offered settings (part s).retained reads o)
    (input : Input α) (stream : RandomStream) :
    Path (preview host (Process.partCell part replace) input settings stream)
        (.exchanged s s :: reads.map Beat.move) ((o.draw input stream).mapError .choice) ∧
      DrawsFrom part settings (.exchanged s s :: reads.map Beat.move) o :=
  ⟨path_preview_iff.2 ⟨s, reads, _, rfl, h.preparation input stream⟩, s, s, reads, [], by simp, h⟩

/-- Whoever selects begins with a look at the state, and then reads. -/
theorem Selects.preparation (h : Selects part replace input settings stream t r) :
    ∃ s s' reads tail rest, t = .exchanged s s' :: (reads.map Beat.move ++ tail) ∧
      Preparation input settings (part s).retained stream reads (r, rest) := by
  cases h with
  | preview path =>
    obtain ⟨s, reads, rest, rfl, preparation⟩ := path_preview_iff.1 path
    exact ⟨s, s, reads, [], rest, by simp, preparation⟩
  | cycle path selecting =>
    obtain ⟨reads, rfl, preparation⟩ := path_prepare_iff.1 selecting
    exact ⟨_, _, reads, _, _, rfl, preparation⟩

/-- What comes of selecting is what is drawn from an offer, unless a read failed or the catalog is
empty. -/
theorem Selects.drawn_or_unread (h : Selects part replace input settings stream t r) :
    (∃ o, DrawsFrom part settings t o ∧ r = (o.draw input stream).mapError .choice) ∨ Unread r := by
  obtain ⟨s, s', reads, tail, rest, rfl, preparation⟩ := h.preparation
  rcases preparation.offered_or_unread with ⟨o, offered, drawn⟩ | unread
  · exact .inl ⟨o, ⟨s, s', reads, tail, rfl, offered⟩, drawn⟩
  · exact .inr unread

/-- What was told at the beginning determines what comes of selecting. -/
theorem Selects.eq_of_preparation (h : Selects part replace input settings stream t r) {s s' : σ}
    {reads : List Beat} {tail : List (Move σ)} {r' : Except PrepareError (Selection α)}
    {rest : RandomStream} (told : t = .exchanged s s' :: (reads.map Beat.move ++ tail))
    (preparation : Preparation input settings (part s).retained stream reads (r', rest)) :
    r = r' := by
  obtain ⟨s₁, s₁', reads₁, tail₁, rest₁, rfl, preparation₁⟩ := h.preparation
  obtain ⟨hs, same⟩ := List.cons.inj told
  cases hs
  -- Both are what one and the same program is told, up to its end.
  have result := ((path_prepare_iff.2 ⟨reads₁, rfl, preparation₁⟩).unique
    (path_prepare_iff.2 ⟨reads, rfl, preparation⟩)
    (List.prefix_append _ tail₁) (same ▸ List.prefix_append _ tail)).2
  exact congrArg Prod.fst result

/-- **What comes of selecting is what is drawn from the offer**, if it comes to one. -/
theorem Selects.eq_draw (h : Selects part replace input settings stream t r) {o : Offer}
    (draws : DrawsFrom part settings t o) : r = (o.draw input stream).mapError .choice := by
  obtain ⟨s, s', reads, tail, told, offered⟩ := draws
  exact h.eq_of_preparation told (offered.preparation input stream)

theorem mapError_eq_ok {ε ε' β : Type} {f : ε → ε'} {r : Except ε β} {b : β}
    (h : .ok b = r.mapError f) : r = .ok b := by
  cases r with
  | error e => cases h
  | ok b' =>
    cases h
    rfl

theorem eq_ok_of_toOption {ε β : Type} {r : Except ε β} {b : β} (h : r.toOption = some b) :
    r = .ok b := by
  cases r with
  | error e => cases h
  | ok b' =>
    cases h
    rfl

/-- A selection was drawn from an offer. -/
theorem Selects.drawn {selection : Selection α}
    (h : Selects part replace input settings stream t (.ok selection)) :
    ∃ o, DrawsFrom part settings t o ∧ o.draw input stream = .ok selection := by
  rcases h.drawn_or_unread with ⟨o, draws, drawn⟩ | unread
  · exact ⟨o, draws, mapError_eq_ok drawn⟩
  · cases unread

end

end MapBallot.Swap
