import MapBallot.Layer

/-!
# `MapBallot.History.Record` — one played round

## Contents

* `Instant`, `Instant.codec` — moments since the epoch;
* `Play`, `Play.codec` — the map, the environment, the round index and, if known, the layer of a
  round, with the moment it was recorded;
* `RoundStart`, `RoundStart.codec`, `RoundStart.play` — the notice that a round started.
-/

namespace MapBallot

open Json (Codec Field Draft Fault Values)

/-- The number of nanoseconds in a second. -/
def nanosPerSecond : Nat := 1000000000

/-- A moment since the epoch. -/
structure Instant where
  seconds : UInt64
  /-- Nanoseconds within the second. -/
  nanos : UInt32
  seconds_lt : seconds.toNat < UInt64.size / 2 := by decide
  nanos_lt : nanos.toNat < nanosPerSecond := by decide
  deriving DecidableEq, Repr

namespace Instant

/-- The epoch itself. -/
def epoch : Instant := ⟨0, 0, by decide, by decide⟩

instance : Inhabited Instant := ⟨epoch⟩

/-- The fields of a written moment. -/
def fields : List Field := [
  .required "secs_since_epoch" (.word64 "u64"),
  .required "nanos_since_epoch" .word32]

/-- The whole seconds of a moment; nanoseconds beyond a second are carried over. The sum must fit 64
bits. -/
def wholeSeconds (seconds : UInt64) (nanos : UInt32) : Except Fault Nat :=
  let total := seconds.toNat + nanos.toNat / nanosPerSecond
  if UInt64.size ≤ total then .error (.invalid "overflow deserializing SystemTime epoch offset")
  else .ok total

/-- The moment of these whole seconds, which must fit 63 bits, and of what nanoseconds are left over
by them. -/
def ofWhole (total : Nat) (nanos : UInt32) : Except Fault Instant :=
  if h : total < UInt64.size / 2 then
    .ok {
      seconds := .ofNat total
      nanos := .ofNat (nanos.toNat % nanosPerSecond)
      seconds_lt := by
        rw [UInt64.toNat_ofNat', Nat.mod_eq_of_lt (Nat.lt_trans h (by decide))]
        exact h
      nanos_lt := by
        have hlt := Nat.mod_lt nanos.toNat (by decide : 0 < nanosPerSecond)
        rw [UInt32.toNat_ofNat', Nat.mod_eq_of_lt (Nat.lt_trans hlt (by decide))]
        exact hlt }
  else .error (.invalid "overflow deserializing SystemTime")

/-- Reads the fields of a moment. A sequence is judged by its two items before its end is looked
for. -/
def readParts (d : Draft) : Except Fault (Nat × UInt32) := do
  match d with
  | .array (first :: second :: others) closed =>
    let seconds ← (Codec.word64 "u64").read first
    let nanos ← Codec.word32.read second
    let total ← wholeSeconds seconds nanos
    if others.isEmpty && closed then pure (total, nanos) else throw .malformed
  | d =>
    let (seconds, nanos, ()) ← Values.read ⟨"SystemTime", true, false⟩ fields d
    pure (← wholeSeconds seconds nanos, nanos)

/-- Moments are records of seconds and nanoseconds. -/
def codec : Codec Instant where
  read d := do
    let (total, nanos) ← readParts d
    ofWhole total nanos
  write t := .object (Values.toMembers fields (t.seconds, t.nanos, ()))

end Instant

/-- One played round. -/
structure Play where
  map : String
  environment : Environment
  roundIndex : UInt64
  /-- The exact layer, when the notice of the round named it. -/
  layerId : Option String := none
  recordedAt : Instant
  deriving DecidableEq, Repr, Inhabited

namespace Play

/-- The fields of a written round; `now` is the moment of a round that names none. -/
def fields (now : Instant) : List Field := [
  .required "map" .text,
  .required "environment" Environment.codec,
  .required "round_index" (.word64 "u64"),
  .omitted "layer_id" .text,
  .withDefault "recorded_at" Instant.codec now]

/-- Played rounds are records. -/
def codec (now : Instant) : Codec Play :=
  .record ⟨"PlayRecord", false, true⟩ (fields now)
    (fun (map, environment, roundIndex, layerId, recordedAt, ()) =>
      ⟨map, environment, roundIndex, layerId, recordedAt⟩)
    (fun p => (p.map, p.environment, p.roundIndex, p.layerId, p.recordedAt, ()))

end Play

/-- The notice that a round started. -/
structure RoundStart where
  map : String
  environment : Environment
  roundIndex : UInt64
  /-- The exact layer, when it is known. -/
  layerId : Option String := none
  deriving DecidableEq, Repr

namespace RoundStart

/-- The fields of a written notice. -/
def fields : List Field := [
  .required "map" .text,
  .required "environment" Environment.codec,
  .required "round_index" (.word64 "u64"),
  .optional "layer_id" .text]

/-- Notices are records. -/
def codec : Codec RoundStart :=
  .record ⟨"RoundStart", false, true⟩ fields
    (fun (map, environment, roundIndex, layerId, ()) => ⟨map, environment, roundIndex, layerId⟩)
    (fun e => (e.map, e.environment, e.roundIndex, e.layerId, ()))

/-- The round of a notice that arrives at `now`. -/
def play (e : RoundStart) (now : Instant) : Play :=
  ⟨e.map, e.environment, e.roundIndex, e.layerId, now⟩

end RoundStart

end MapBallot
