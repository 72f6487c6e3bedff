import MapBallot.Remote.Settings

/-!
# `MapBallot.Remote.Call` — the calls a cycle makes to the remote tool

The remote tool offers five calls: it lists its layers, tells its vote settings, gives and takes its
whitelist, and draws up its vote anew. A call either answers or fails for one of five reasons.

## Contents

* `Whitelist`, `Whitelist.codec`;
* `Call`, `Call.Payload` — the calls and what each one answers;
* `CallError` — why a call failed, with its wording.
-/

namespace MapBallot.Remote

open Json (Codec Field)

/-- The layers that the remote tool may offer, by id, in its own order and with its repetitions. -/
structure Whitelist where
  layerIds : List String
  deriving DecidableEq, Repr, Inhabited

namespace Whitelist

/-- The number of listed ids. -/
def size (w : Whitelist) : Nat := w.layerIds.length

/-- Whitelists are records of one field. -/
def codec : Codec Whitelist :=
  .record ⟨"WhitelistSnapshot", false, true⟩ [.required "layer_ids" (.list .text)]
    (fun (ids, ()) => ⟨ids⟩) (fun w => (w.layerIds, ()))

end Whitelist

/-- Why a call to the remote tool failed. -/
inductive CallError
  /-- The exchange did not take place or was not completed. -/
  | transport (endpoint message : String)
  /-- The answer has a status that is no success. -/
  | status (endpoint : String) (code : Nat)
  /-- The remote tool refused the command. -/
  | rejected (command message : String)
  /-- The answer does not have the expected form. -/
  | decode (endpoint message : String)
  /-- The service is shutting down. -/
  | interrupted
  deriving DecidableEq, Repr

/-- The wording of a failed call. -/
def CallError.message : CallError → String
  | .transport endpoint message => "transport failure calling " ++ endpoint ++ ": " ++ message
  | .status endpoint code => endpoint ++ " answered with HTTP " ++ toString code
  | .rejected command message => command ++ " rejected by remote tool: " ++ message
  | .decode endpoint message => "failed to decode " ++ endpoint ++ " response: " ++ message
  | .interrupted => "call abandoned because the service is shutting down"

/-- A call to the remote tool. -/
inductive Call
  /-- Lists the layers that the tool knows. -/
  | catalog
  /-- Tells the tool's vote settings. -/
  | settings
  /-- Gives the whitelist. -/
  | getWhitelist
  /-- Replaces the whitelist. -/
  | setWhitelist (layerIds : List String)
  /-- Draws up the vote anew from the whitelist. -/
  | reset
  deriving DecidableEq, Repr

/-- What a call answers when it succeeds. -/
abbrev Call.Payload : Call → Type
  | .catalog => List Layer
  | .settings => Settings
  | .getWhitelist => Whitelist
  | .setWhitelist _ => Unit
  | .reset => Unit

/-- What a call answers. -/
abbrev Call.Answer (c : Call) : Type := Except CallError c.Payload

end MapBallot.Remote
