/-!
# `MapBallot.Alert.Frame` — payloads one after the other on a stream

On the alert stream each payload follows its length, in four bytes with the lowest first. A reader
takes the length, then as many bytes, and starts over.

## Contents

* `lengthBytes`, `encode` — the frame of a payload;
* `lengthOf`, `takeFrame`, `takeFrames` — reading frames.
-/

namespace MapBallot.Alert.Frame

/-- The length of a payload in four bytes, the lowest first. -/
def lengthBytes (n : Nat) : List UInt8 :=
  [n.toUInt8, (n / 0x100).toUInt8, (n / 0x10000).toUInt8, (n / 0x1000000).toUInt8]

/-- The frame of a payload. -/
def encode (payload : List UInt8) : List UInt8 := lengthBytes payload.length ++ payload

/-- The number that four bytes give, the lowest first. -/
def lengthOf (a b c d : UInt8) : Nat :=
  a.toNat + 0x100 * b.toNat + 0x10000 * c.toNat + 0x1000000 * d.toNat

/-- Takes one payload off a stream, if its frame is complete. -/
def takeFrame : List UInt8 → Option (List UInt8 × List UInt8)
  | a :: b :: c :: d :: rest =>
    let n := lengthOf a b c d
    if n ≤ rest.length then some (rest.take n, rest.drop n) else none
  | _ => none

theorem length_takeFrame_lt {bytes payload rest : List UInt8}
    (h : takeFrame bytes = some (payload, rest)) : rest.length < bytes.length := by
  match bytes with
  | a :: b :: c :: d :: tail =>
    simp only [takeFrame] at h
    split at h
    · simp only [Option.some.injEq, Prod.mk.injEq] at h
      simp only [← h.2, List.length_drop, List.length_cons]
      omega
    · cases h
  | [] | [_] | [_, _] | [_, _, _] => simp [takeFrame] at h

/-- Takes all complete frames off a stream; what is left is the beginning of one. -/
def takeFrames (bytes : List UInt8) : List (List UInt8) × List UInt8 :=
  match _h : takeFrame bytes with
  | none => ([], bytes)
  | some (payload, rest) =>
    let (payloads, left) := takeFrames rest
    (payload :: payloads, left)
termination_by bytes.length
decreasing_by exact length_takeFrame_lt _h

end MapBallot.Alert.Frame
