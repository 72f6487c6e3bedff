import MapBallot.Selection.Draw

/-!
# `MapBallot.Selection.Basic` — choosing the options of a vote

A selection draws distinct layers from a catalog: a number of any layers, or for each game mode its
share of a plan. For a plan the exclusion rules come first; what they leave out is never scored.

## Contents

* `SelectionError` — why nothing can be chosen, with its wording;
* `Selection`, `Selection.layerIds`;
* `select` — a number of layers of any mode;
* `selectPlan` — the shares of a plan;
* `Selection.toJson` — a choice as a document;
* `selectPlanEvents` — the log of a choice.
-/

namespace MapBallot

open Weighting (Parameters)

variable {α : Type}

/-- Why nothing can be chosen. -/
inductive SelectionError
  | emptyCatalog
  | insufficientCandidates (gameMode : Option GameMode) (requested eligible : Nat)
  | emptyPlan
  | sampling (fault : Selection.SamplingFault)
  deriving DecidableEq, Repr

/-- The wording of a failed choice. -/
def SelectionError.message : SelectionError → String
  | .emptyCatalog => "the layer catalog is empty"
  | .insufficientCandidates gameMode requested eligible =>
    toString requested ++ " options requested" ++
      (gameMode.elim "" fun m => " for " ++ m.name) ++
      " but only " ++ toString eligible ++ " layers are eligible"
  | .emptyPlan => "the selection plan requests no options"
  | .sampling fault => "weighted sampling failed: " ++ fault.message

/-- The chosen layers in the order in which they were drawn, each with its score before the draw. -/
structure Selection (α : Type) where
  candidates : List (Scored α)
  deriving DecidableEq, Repr

namespace Selection

/-- The ids of the chosen layers. -/
def layerIds (s : Selection α) : List String := s.candidates.map (·.layer.id)

/-- The number of chosen layers. -/
def size (s : Selection α) : Nat := s.candidates.length

variable [Scalar α]

/-- Draws `count` layers from a pool that must have as many. -/
def drawFrom (pool : List (Scored α)) (count : Nat) (mode : Option GameMode)
    (stream : RandomStream) : Except SelectionError (List (Scored α)) × RandomStream :=
  if pool.length < count then (.error (.insufficientCandidates mode count pool.length), stream)
  else
    match drawMany count pool stream with
    | (.ok drawn, stream) => (.ok drawn, stream)
    | (.error fault, stream) => (.error (.sampling fault), stream)

/-- The layers of one mode. -/
def poolOf (scored : List (Scored α)) (mode : GameMode) : List (Scored α) :=
  scored.filter fun s => s.layer.gameMode == mode

/-- Draws the requested number of layers of each mode, one mode after the other. -/
def drawRequests (scored : List (Scored α)) :
    List (GameMode × Nat) → RandomStream → Except SelectionError (List (Scored α)) × RandomStream
  | [], stream => (.ok [], stream)
  | (mode, count) :: requests, stream =>
    match drawFrom (poolOf scored mode) count (some mode) stream with
    | (.error e, stream) => (.error e, stream)
    | (.ok drawn, stream) =>
      match drawRequests scored requests stream with
      | (.error e, stream) => (.error e, stream)
      | (.ok rest, stream) => (.ok (drawn ++ rest), stream)

end Selection

/-- What the exclusion rules of a policy leave of a catalog. -/
def eligibleLayers (history : History) (catalog : List Layer) (policy : Policy) : List Layer :=
  catalog.filter (Exclusions.resolve policy.exclusions history catalog).permits

/-- What the exclusion rules of a policy leave of a plan. -/
def restrictedPlan (history : History) (catalog : List Layer) (plan : Plan) (policy : Policy) :
    Plan :=
  (Exclusions.resolve policy.exclusions history catalog).restrict plan

section

variable [Scalar α]

/-- Draws `count` distinct layers of a catalog. -/
def select (parameters : Parameters α) (history : History) (catalog : List Layer) (count : Nat)
    (policy : Policy) (stream : RandomStream) :
    Except SelectionError (Selection α) × RandomStream :=
  if catalog.isEmpty then (.error .emptyCatalog, stream)
  else
    let (drawn, stream) :=
      Selection.drawFrom (scoreCatalog parameters history catalog policy) count none stream
    (drawn.map Selection.mk, stream)

/-- Draws each mode's share of a plan from the layers that the exclusion rules leave. -/
def selectPlan (parameters : Parameters α) (history : History) (catalog : List Layer) (plan : Plan)
    (policy : Policy) (stream : RandomStream) :
    Except SelectionError (Selection α) × RandomStream :=
  if catalog.isEmpty then (.error .emptyCatalog, stream)
  else if plan.isEmpty then (.error .emptyPlan, stream)
  else
    let restricted := restrictedPlan history catalog plan policy
    if restricted.isEmpty then (.error .emptyPlan, stream)
    else
      let scored := scoreCatalog parameters history (eligibleLayers history catalog policy) policy
      let (drawn, stream) := Selection.drawRequests scored restricted.requests stream
      (drawn.map Selection.mk, stream)

end

/-! ## Written choices -/

/-- A layer with its score as a document. -/
def Scored.toJson (s : Scored Float) : Json :=
  .object [("layer", Layer.codec.write s.layer), ("score", .ofFloat s.score)]

/-- A choice as a document. -/
def Selection.toJson (s : Selection Float) : Json :=
  .object [("candidates", .array (s.candidates.map Scored.toJson))]

/-! ## The log -/

/-- The target of log entries about choices. -/
def selectionTarget : String := "votemap::selection"

/-- The log entry about layers that the exclusion rules left out. -/
def exclusionEvents (history : History) (catalog : List Layer) (policy : Policy) : List Event :=
  let exclusions := Exclusions.resolve policy.exclusions history catalog
  let excluded := catalog.length - (eligibleLayers history catalog policy).length
  if excluded == 0 then []
  else [⟨.debug, selectionTarget, "selection.exclusions_applied",
    [("excluded", toString excluded),
      ("suppressed_modes", Text.showList (exclusions.suppressed.toList.map GameMode.label))]⟩]

/-- The log entry of a finished choice. -/
def drawnEvent (s : Selection α) : Event :=
  ⟨.debug, selectionTarget, "selection.drawn",
    [("layers", Text.showList (s.layerIds.map Text.quote))]⟩

/-- The log of drawing a number of layers of any mode. -/
def selectEvents (parameters : Parameters α) (catalog : List Layer) : List Event :=
  if catalog.isEmpty then [] else unconfiguredEvents parameters catalog

/-- The log of drawing the shares of a plan, up to its result. -/
def selectPlanEvents (parameters : Parameters α) (history : History) (catalog : List Layer)
    (plan : Plan) (policy : Policy) (result : Except SelectionError (Selection α)) : List Event :=
  if catalog.isEmpty || plan.isEmpty || (restrictedPlan history catalog plan policy).isEmpty then []
  else
    exclusionEvents history catalog policy ++
      unconfiguredEvents parameters (eligibleLayers history catalog policy) ++
      match result with
      | .ok selection => [drawnEvent selection]
      | .error _ => []

end MapBallot
