import MapBallot.Command
import MapBallot.Json.Printer
import MapBallot.Service.Dispatch

/-!
# `MapBallot.Daemon.Console` — the lines of operators and their replies

Operators send lines and get one reply for each line that is not blank, in the order of the lines. A
line that is no command is answered right away; a command goes to the service. Every reply is a
document on one line that says whether the command was carried out.

## Contents

* `Console` — the service, the rounds that wait, and whether it is stopping;
* `accepted`, `refused` — the two kinds of replies;
* `Console.carryOut` — carrying out a command;
* `Console.reply` — the reply to a line.
-/

namespace MapBallot

open Files (Reader)
open Remote (Host)
open Swap (Cell)

/-- What the commands of operators work on. -/
structure Console where
  service : Service
  pending : Pending := {}
  /-- A shutdown was asked for; nothing more is answered. -/
  stopping : Bool := false

namespace Console

/-- The reply to a command that was carried out. -/
def accepted (members : List (String × Json)) : Json := .object (("ok", .bool true) :: members)

/-- The reply to a line that was not carried out. -/
def refused (reason : String) : Json :=
  .object [("ok", .bool false), ("error", .string reason)]

/-- The reply to a preview. -/
def previewReply : Except Swap.PrepareError (Selection Float) → Json
  | .ok s => accepted [("selection", s.toJson)]
  | .error e => refused e.message

/-- The reply to a reload. -/
def reloadReply (a : Weighting.Attempt) : Json :=
  match a.outcome with
  | .ok g => accepted [("weighting_version", .ofNat g.version)]
  | .error p => refused p.text

section

variable {m : Type → Type} [Monad m]

/-- The shared service. -/
def serviceCell (cell : Cell m Console) : Cell m Service :=
  cell.focus service fun c s => { c with service := s }

/-- Carries out a command. Rounds are only queued; they are recorded later. -/
def carryOut (host : Host m) (cell : Cell m Console) (read : Reader) (entropy : RandomStream) :
    Command → m Json
  | .roundStart map environment roundIndex layerId => do
    cell.update fun c =>
      { c with pending := c.pending.push ⟨map, environment, roundIndex, layerId⟩ }
    pure (accepted [("queued_round", .ofNat roundIndex.toNat)])
  | .preview => previewReply <$> Service.preview host (serviceCell cell) entropy
  | .reload => do
    let c ← cell.read
    let attempt := c.service.weighting.reload read
    host.log attempt.log
    cell.update fun c =>
      { c with service := { c.service with weighting := attempt.current c.service.weighting } }
    pure (reloadReply attempt)
  | .status => do
    let c ← cell.read
    pure (accepted [("status", c.service.status.toJson)])
  | .shutdown => do
    cell.update fun c => { c with stopping := true }
    pure (accepted [("stopping", .bool true)])

/-- The reply to a line; a blank line has none. -/
def reply (host : Host m) (cell : Cell m Console) (read : Reader) (entropy : RandomStream)
    (line : String) : m (Option Json) :=
  if (Text.words line.toList).isEmpty then pure none
  else
    match Command.parse line with
    | .error e => pure (some (refused e.message))
    | .ok c => some <$> carryOut host cell read entropy c

end

/-- The text of a reply: one line, and its end. -/
def lineOf (reply : Json) : String := Json.print reply ++ "\n"

end Console

end MapBallot
