import MapBallot.Preview.Arguments
import MapBallot.Random.ChaCha
import MapBallot.Remote.Envelope
import MapBallot.Selection.Basic
import MapBallot.Text.Blank
import MapBallot.Text.Unsigned
import MapBallot.Weighting.Store

/-!
# `MapBallot.Preview.Run` — the offline preview of a choice

The preview shows what would be drawn from a catalog dump, or the scores of its layers, without a
remote tool.

## Contents

* `Cause`, `Failure` — why there is no preview;
* `planOf` — the shares of a plan as they are typed;
* `run` — the document that is shown.
-/

namespace MapBallot.Preview

open Files (Reader)
open Json (Codec)
open Weighting (Parameters Problem)

/-- What led to a failure. -/
inductive Cause
  | plain (text : String)
  /-- A fault at some place in a document. -/
  | inDocument (text : String)
  deriving DecidableEq, Repr

/-- The wording of a cause. -/
def Cause.text : Cause → String
  | .plain text | .inDocument text => text

/-- Why there is no preview: what failed, and what led to it, the deepest cause last. -/
structure Failure where
  message : String
  causes : List Cause
  deriving DecidableEq, Repr

/-- A fault of a document. A value that fits none of several forms has no place of its own. -/
def faultCause (f : Json.Fault) : Cause :=
  match f with
  | .noAlternative _ => .plain f.message
  | _ => .inDocument f.message

/-- What led to a problem with the weighting. -/
def problemCauses (p : Problem Float) : List Cause :=
  match p with
  | .unparsable f => [.inDocument p.text, .inDocument f.message]
  | .unreadable _ f => [.plain p.text, .plain f.message]
  | _ => [.plain p.text]

/-- Reads a file that is part of the question. -/
def readInput (read : Reader) (what path : String) : Except Failure String :=
  match read path with
  | .ok text => .ok text
  | .error f => .error ⟨"Failed to read " ++ what ++ " at " ++ path, [.plain f.message]⟩

/-- A document in a file that is part of the question. -/
def parseInput {α : Type} (what path : String) : Except Json.Fault α → Except Failure α
  | .ok a => .ok a
  | .error f => .error ⟨"Failed to parse " ++ what ++ " at " ++ path, [faultCause f]⟩

/-- The weighting to preview with. -/
def weightingOf (read : Reader) (a : Arguments) : Except Failure (Parameters Float) :=
  match a.weighting with
  | none => .ok .builtin
  | some path =>
    match Parameters.ofFile read path with
    | .ok p => .ok p
    | .error p => .error ⟨"Failed to load weighting from " ++ path, problemCauses p⟩

/-- The catalog to preview. -/
def catalogOf (read : Reader) (a : Arguments) : Except Failure (List Layer) :=
  match a.catalog with
  | none => .error ⟨"--catalog is required", []⟩
  | some path => do
    let text ← readInput read "catalog" path
    parseInput "catalog" path (Remote.Catalog.ofText text)

/-- The history to preview after; at least one round is kept. -/
def historyOf (read : Reader) (now : Instant) (a : Arguments) : Except Failure History :=
  match a.history with
  | none => .ok .empty
  | some path => do
    let text ← readInput read "history" path
    let plays ← parseInput "history" path (Codec.readText (History.readFile now) text)
    pure (.ofRecent plays (max a.retention 1))

/-- The policy to preview. -/
def policyOf (a : Arguments) : Policy :=
  let rules := if a.noExclusions then ExclusionRules.none else ExclusionRules.default
  { recencyHorizon := a.horizon.toUInt32
    normalizeLayerCounts := a.normalize
    exclusions := match a.excludeLast with
      | none => rules
      | some n => { rules with lastPlayedToExclude := n } }

/-- One share of a plan, as it is typed: a mode, an equals sign, and a count. -/
def shareOf (raw : String) : Except Failure (GameMode × UInt64) :=
  match splitValue raw.toList with
  | (_, none) => .error ⟨"Option must be in mode=count form, got '" ++ raw ++ "'", []⟩
  | (mode, some count) =>
    match GameMode.parse (Text.trimmed mode) with
    | .error e => .error ⟨"Unknown game mode in '" ++ raw ++ "'", [.plain e.message]⟩
    | .ok mode =>
      match Text.parseUnsigned UInt64.size (Text.trimmed count) with
      | .error f => .error ⟨"Invalid option count in '" ++ raw ++ "'", [.plain f.message]⟩
      | .ok n => .ok (mode, n.toUInt64)

/-- The plan that typed shares give; without any, the standard plan. -/
def planOf (raw : List String) : Except Failure Plan :=
  if raw.isEmpty then .ok .standard else (raw.mapM shareOf).map Plan.ofEntries

/-- The document that is shown. `entropy` are the random words of a preview without a seed. -/
def run (read : Reader) (now : Instant) (entropy : RandomStream) (a : Arguments) :
    Except Failure Json := do
  if a.printSchema then return Weighting.Document.schema.toJson
  let parameters ← weightingOf read a
  let catalog ← catalogOf read a
  let history ← historyOf read now a
  let policy := policyOf a
  if a.scores then
    return .array ((scoreCatalog parameters history catalog policy).map Scored.toJson)
  let plan ← planOf a.options
  let stream := a.seed.elim entropy RandomStream.ofSeed
  match (selectPlan parameters history catalog plan policy stream).1 with
  | .error e => throw ⟨"Selection failed", [.plain e.message]⟩
  | .ok chosen =>
    return .object [("catalog_layers", .ofNat catalog.length),
      ("history_rounds", .ofNat history.size), ("plan", Plan.codec.write plan),
      ("selection", chosen.toJson)]

end MapBallot.Preview
