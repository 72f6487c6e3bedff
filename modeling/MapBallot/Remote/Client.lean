import MapBallot.Json.Printer
import MapBallot.Remote.Call
import MapBallot.Remote.Connection
import MapBallot.Remote.Envelope

/-!
# `MapBallot.Remote.Client` — calls as exchanges with the remote tool

Each call is one request to an endpoint of the remote tool. A status that is no success decides the
call, whatever the body; otherwise the body must be an envelope that does not report a failure, and
around what was asked for.

## Contents

* `Call.endpoint`, `Call.request` — the request of a call;
* `Exchange` — what came of a request;
* `Call.interpret` — the answer that an exchange gives.
-/

namespace MapBallot.Remote

open Json (Codec Fault)

variable {α : Type}

/-- Requests that only read, and requests that change something. -/
inductive Method
  | get
  | post
  deriving DecidableEq, Repr

/-- A request to the remote tool. -/
structure Request where
  method : Method
  endpoint : String
  body : Option Json

namespace Call

/-- The endpoint of a call, relative to the base address. -/
def endpoint : Call → String
  | catalog => "api/get_maps"
  | settings => "api/get_votemap_config"
  | getWhitelist => "api/get_votemap_whitelist"
  | setWhitelist _ => "api/set_votemap_whitelist"
  | reset => "api/reset_votemap_state"

/-- The request of a call. -/
def request (c : Call) : Request :=
  match c with
  | catalog | settings | getWhitelist => ⟨.get, c.endpoint, none⟩
  | setWhitelist ids => ⟨.post, c.endpoint, some (.object [("map_names", .ofStrings ids)])⟩
  | reset => ⟨.post, c.endpoint, some (.object [])⟩

end Call

/-- What came of a request. -/
inductive Exchange
  /-- The answer, with its status. -/
  | answered (status : Nat) (body : String)
  /-- There was none, for some reason. -/
  | failed (reason : String)

/-- A status that tells of a success. -/
def isSuccess (status : Nat) : Bool := 200 ≤ status && status < 300

/-- Any document that is not nested too deep inside its envelope; what it says does not matter. -/
def anyDocument : Codec Json where
  read d :=
    match d.toJson? with
    | some j => if d.depth < Codec.maxFormDepth then .ok j else .error .malformed
    | none => .error .malformed
  write := id

/-- The result in an envelope that a body holds. -/
def resultOf (endpoint : String) (payload : Codec α) (body : String) :
    Except CallError (Option α) :=
  match (Envelope.codec payload).ofText body with
  | .error fault => .error (.decode endpoint fault.message)
  | .ok envelope =>
    if envelope.failed then .error (.rejected envelope.command (envelope.error.getD ""))
    else .ok envelope.result

/-- The result that an exchange gives. -/
def resultOfExchange (endpoint : String) (payload : Codec α) :
    Exchange → Except CallError (Option α)
  | .failed reason => .error (.transport endpoint reason)
  | .answered status body =>
    if isSuccess status then resultOf endpoint payload body else .error (.status endpoint status)

/-- The result that must be there. -/
def required (endpoint : String) : Except CallError (Option α) → Except CallError α
  | .ok (some a) => .ok a
  | .ok none => .error (.decode endpoint "response carried no result")
  | .error e => .error e

namespace Call

/-- The answer that an exchange gives to a call. -/
def interpret (c : Call) (x : Exchange) : c.Answer :=
  match c with
  | catalog =>
    (required catalog.endpoint (resultOfExchange catalog.endpoint (.list LayerRecord.codec) x)).map
      (List.map LayerRecord.layer)
  | settings => required settings.endpoint (resultOfExchange settings.endpoint Settings.codec x)
  | getWhitelist =>
    (required getWhitelist.endpoint (resultOfExchange getWhitelist.endpoint (.list .text) x)).map
      Whitelist.mk
  | setWhitelist ids =>
    (resultOfExchange (setWhitelist ids).endpoint anyDocument x).map fun _ => ()
  | reset => (resultOfExchange reset.endpoint anyDocument x).map fun _ => ()

end Call

end MapBallot.Remote
