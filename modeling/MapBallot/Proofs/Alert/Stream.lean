import Mathlib.Algebra.Group.Nat.Defs
import MapBallot.Alert.Frame

/-!
# `MapBallot.Proofs.Alert.Stream` — frames are read back from the stream

A reader of the alert stream sees nothing but bytes. It can tell the frames apart because each begins with
the length of what follows: there is one way to cut bytes into frames and the beginning of one more, and
reading finds it. So what was sent is read back, from a stream that breaks off as far as its frames are
complete.

The header holds the length modulo 2^32. A payload that is longer than that says is not read back: the
reader stops early in it and takes what follows for further frames.

## Contents

* `lengthOf_lengthBytes`, `lengthBytes_lengthOf` — headers and the numbers they hold;
* `takeFrame_encode`, `takeFrame_eq_some_iff`, `takeFrame_eq_none_iff` — one frame;
* `stream`, `takeFrames_eq_iff` — reading finds the one way to cut a stream;
* `BreaksOff`, `exists_breaksOff` — a stream that ends too early;
* `Overlong`, `frames_read_back` — what is read back, and what is not.
-/

namespace MapBallot.Alert.Frame

variable {bytes payload rest : List UInt8} {payloads : List (List UInt8)}

/-! ## Headers -/

/-- A header holds the length modulo 2^32. -/
theorem lengthOf_lengthBytes (n : Nat) :
    lengthOf n.toUInt8 (n / 0x100).toUInt8 (n / 0x10000).toUInt8 (n / 0x1000000).toUInt8 = n % 2 ^ 32 := by
  simp only [lengthOf, Nat.toUInt8_eq, UInt8.toNat_ofNat']
  omega

theorem lengthOf_lt (a b c d : UInt8) : lengthOf a b c d < 2 ^ 32 := by
  have := a.toNat_lt
  have := b.toNat_lt
  have := c.toNat_lt
  have := d.toNat_lt
  unfold lengthOf
  omega

/-- A byte is the lowest eight bits of a number that ends with it. -/
theorem toUInt8_of_mod {n : Nat} {b : UInt8} (h : n % 2 ^ 8 = b.toNat) : n.toUInt8 = b := by
  rw [← UInt8.toNat_inj, Nat.toUInt8_eq, UInt8.toNat_ofNat', h]

/-- Any four bytes are the header of the number they give. -/
theorem lengthBytes_lengthOf (a b c d : UInt8) : lengthBytes (lengthOf a b c d) = [a, b, c, d] := by
  have := a.toNat_lt
  have := b.toNat_lt
  have := c.toNat_lt
  have := d.toNat_lt
  unfold lengthBytes
  rw [toUInt8_of_mod (b := a), toUInt8_of_mod (b := b), toUInt8_of_mod (b := c), toUInt8_of_mod (b := d)]
  all_goals
    unfold lengthOf
    omega

/-! ## One frame -/

/-- The first frame of a stream, whatever the length of its payload: the reader takes as many bytes as the
header says. -/
theorem takeFrame_encode (payload rest : List UInt8) :
    takeFrame (encode payload ++ rest) =
      some (payload.take (payload.length % 2 ^ 32), payload.drop (payload.length % 2 ^ 32) ++ rest) := by
  have within : payload.length % 2 ^ 32 ≤ payload.length := Nat.mod_le _ _
  have held : payload.length % 2 ^ 32 ≤ (payload ++ rest).length := by
    rw [List.length_append]
    omega
  show takeFrame (_ :: _ :: _ :: _ :: (payload ++ rest)) = _
  rw [takeFrame, lengthOf_lengthBytes, if_pos held, List.take_append_of_le_length within,
    List.drop_append_of_le_length within]

theorem takeFrame_encode_of_lt (short : payload.length < 2 ^ 32) (rest : List UInt8) :
    takeFrame (encode payload ++ rest) = some (payload, rest) := by
  rw [takeFrame_encode, Nat.mod_eq_of_lt short, List.take_length, List.drop_length, List.nil_append]

/-- **A reader takes a payload if its frame is in front**, and in no other case. -/
theorem takeFrame_eq_some_iff :
    takeFrame bytes = some (payload, rest) ↔ payload.length < 2 ^ 32 ∧ bytes = encode payload ++ rest := by
  constructor
  · intro taken
    match bytes with
    | a :: b :: c :: d :: tail =>
      rw [takeFrame] at taken
      split at taken
      · next held =>
        obtain ⟨rfl, rfl⟩ := Prod.mk.inj (Option.some.inj taken)
        have length : (tail.take (lengthOf a b c d)).length = lengthOf a b c d := List.length_take_of_le held
        refine ⟨length.symm ▸ lengthOf_lt a b c d, ?_⟩
        rw [encode, length, lengthBytes_lengthOf, List.append_assoc, List.take_append_drop]
        rfl
      · cases taken
    | [] | [_] | [_, _] | [_, _, _] => cases taken
  · rintro ⟨short, rfl⟩
    exact takeFrame_encode_of_lt short rest

/-- The beginning of a frame, and not all of it. -/
def Unfinished (bytes : List UInt8) : Prop :=
  ∃ payload, payload.length < 2 ^ 32 ∧ bytes <+: encode payload ∧ bytes ≠ encode payload

/-- No frame is the beginning of another one. -/
theorem encode_unextended {other : List UInt8} (short : payload.length < 2 ^ 32)
    (alsoShort : other.length < 2 ^ 32) (h : encode payload ++ rest <+: encode other) :
    encode payload ++ rest = encode other := by
  obtain ⟨more, whole⟩ := h
  rw [List.append_assoc] at whole
  have taken := takeFrame_encode_of_lt alsoShort []
  rw [List.append_nil, ← whole, takeFrame_encode_of_lt short] at taken
  obtain ⟨_, nothing⟩ := Prod.mk.inj (Option.some.inj taken)
  rw [← whole, nothing, (List.append_eq_nil_iff.1 nothing).1]

theorem unfinished_of_append (missing : List UInt8) (short : payload.length < 2 ^ 32)
    (whole : bytes ++ missing = encode payload) (lacks : missing ≠ []) : Unfinished bytes :=
  ⟨payload, short, ⟨missing, whole⟩, fun all => lacks (List.append_right_eq_self.1 (whole.trans all.symm))⟩

/-- Any header begins a frame, whose payload begins with any bytes that are not too many for it. -/
theorem exists_encode (a b c d : UInt8) (tail : List UInt8) (held : tail.length ≤ lengthOf a b c d) :
    ∃ missing, (tail ++ missing).length = lengthOf a b c d ∧
      encode (tail ++ missing) = a :: b :: c :: d :: (tail ++ missing) := by
  have length : (tail ++ List.replicate (lengthOf a b c d - tail.length) 0).length = lengthOf a b c d := by
    rw [List.length_append, List.length_replicate]
    omega
  refine ⟨_, length, ?_⟩
  rw [encode, length, lengthBytes_lengthOf]
  rfl

/-- A header that is cut off begins a frame. -/
theorem unfinished_of_header {a b c d : UInt8} (missing : List UInt8) (header : bytes ++ missing = [a, b, c, d])
    (lacks : missing ≠ []) : Unfinished bytes := by
  obtain ⟨more, length, frame⟩ := exists_encode a b c d [] (Nat.zero_le _)
  refine unfinished_of_append (missing ++ more) (length ▸ lengthOf_lt a b c d) ?_ ?_
  · rw [frame, ← List.append_assoc, header]
    rfl
  · exact fun nothing => lacks (List.append_eq_nil_iff.1 nothing).1

/-- **A reader that gets no payload has the beginning of a frame**, perhaps nothing of it. -/
theorem takeFrame_eq_none_iff : takeFrame bytes = none ↔ Unfinished bytes := by
  constructor
  · intro stuck
    match bytes with
    | a :: b :: c :: d :: tail =>
      rw [takeFrame] at stuck
      split at stuck
      · cases stuck
      · next lacks =>
        obtain ⟨missing, length, frame⟩ := exists_encode a b c d tail (by omega)
        refine unfinished_of_append missing (length ▸ lengthOf_lt a b c d) frame.symm ?_
        rintro rfl
        rw [List.append_nil] at length
        omega
    -- What is missing of a header may be anything.
    | [] => exact unfinished_of_header [0, 0, 0, 0] rfl (List.cons_ne_nil _ _)
    | [_] => exact unfinished_of_header [0, 0, 0] rfl (List.cons_ne_nil _ _)
    | [_, _] => exact unfinished_of_header [0, 0] rfl (List.cons_ne_nil _ _)
    | [_, _, _] => exact unfinished_of_header [0] rfl (List.cons_ne_nil _ _)
  · rintro ⟨next, short, begun, unfinished⟩
    cases taken : takeFrame bytes with
    | none => rfl
    | some frame =>
      obtain ⟨alsoShort, rfl⟩ := takeFrame_eq_some_iff.1 taken
      exact absurd (encode_unextended alsoShort short begun) unfinished

/-! ## Streams -/

/-- The frames of some payloads, one after the other. -/
def stream (payloads : List (List UInt8)) : List UInt8 := payloads.flatMap encode

@[simp] theorem stream_cons (payload : List UInt8) (payloads : List (List UInt8)) :
    stream (payload :: payloads) = encode payload ++ stream payloads := rfl

@[simp] theorem stream_append (ps qs : List (List UInt8)) : stream (ps ++ qs) = stream ps ++ stream qs :=
  List.flatMap_append

theorem takeFrames_of_none (stuck : takeFrame bytes = none) : takeFrames bytes = ([], bytes) := by
  rw [takeFrames]
  split
  · rfl
  · next taken => cases stuck.symm.trans taken

theorem takeFrames_of_some (taken : takeFrame bytes = some (payload, rest)) :
    takeFrames bytes = (payload :: (takeFrames rest).1, (takeFrames rest).2) := by
  rw [takeFrames]
  split
  · next stuck => cases taken.symm.trans stuck
  · next same =>
    obtain ⟨rfl, rfl⟩ := Prod.mk.inj (Option.some.inj (taken.symm.trans same))
    rfl

/-- **Reading finds the one way to cut bytes into frames** and the beginning of one more. -/
theorem takeFrames_eq_iff :
    takeFrames bytes = (payloads, rest) ↔
      bytes = stream payloads ++ rest ∧ (∀ p ∈ payloads, p.length < 2 ^ 32) ∧ Unfinished rest := by
  constructor
  · intro read
    -- The induction follows the reader, one frame at a time.
    induction h : bytes.length using Nat.strongRecOn generalizing bytes payloads with
    | ind n shorter =>
      cases taken : takeFrame bytes with
      | none =>
        rw [takeFrames_of_none taken] at read
        obtain ⟨rfl, rfl⟩ := Prod.mk.inj read
        exact ⟨rfl, nofun, takeFrame_eq_none_iff.1 taken⟩
      | some frame =>
        obtain ⟨payload, others⟩ := frame
        rw [takeFrames_of_some taken] at read
        obtain ⟨rfl, same⟩ := Prod.mk.inj read
        obtain ⟨short, whole⟩ := takeFrame_eq_some_iff.1 taken
        have fewer : others.length < n := h ▸ length_takeFrame_lt taken
        obtain ⟨cut, allShort, unfinished⟩ := shorter _ fewer (Prod.ext rfl same) rfl
        refine ⟨?_, List.forall_mem_cons.2 ⟨short, allShort⟩, unfinished⟩
        rw [whole, stream_cons, List.append_assoc, ← cut]
  · rintro ⟨rfl, allShort, unfinished⟩
    induction payloads with
    | nil => exact takeFrames_of_none (takeFrame_eq_none_iff.2 unfinished)
    | cons payload payloads ih =>
      obtain ⟨short, others⟩ := List.forall_mem_cons.1 allShort
      rw [stream_cons, List.append_assoc, takeFrames_of_some (takeFrame_encode_of_lt short _), ih others]

theorem unfinished_nil : Unfinished [] := takeFrame_eq_none_iff.1 rfl

theorem takeFrames_stream (allShort : ∀ p ∈ payloads, p.length < 2 ^ 32) :
    takeFrames (stream payloads) = (payloads, []) :=
  takeFrames_eq_iff.2 ⟨(List.append_nil _).symm, allShort, unfinished_nil⟩

/-! ## Streams that break off -/

/-- What a reader makes of a stream that breaks off: it recovers the payloads whose frames are complete, and
is left with what there is of the next frame, from which it takes nothing. -/
structure BreaksOff (payloads : List (List UInt8)) (bytes : List UInt8) (done : List (List UInt8))
    (rest : List UInt8) : Prop where
  recovered : takeFrames bytes = (done, rest)
  complete : ∀ ps, ps <+: payloads → (stream ps <+: bytes ↔ ps <+: done)
  whole : bytes = stream done ++ rest
  next : ∃ payload later, payloads = done ++ payload :: later ∧ rest <+: encode payload ∧ rest ≠ encode payload
  stuck : takeFrame rest = none

/-- A beginning of a stream ends within one of its frames. -/
theorem exists_of_begun (begun : bytes <+: stream payloads) (broken : bytes ≠ stream payloads) :
    ∃ done payload later rest, payloads = done ++ payload :: later ∧ bytes = stream done ++ rest ∧
      rest <+: encode payload ∧ rest ≠ encode payload := by
  induction payloads generalizing bytes with
  | nil => exact absurd (List.prefix_nil.1 begun) broken
  | cons first others ih =>
    by_cases full : encode first <+: bytes
    · obtain ⟨more, rfl⟩ := full
      rw [stream_cons] at begun broken
      obtain ⟨done, payload, later, rest, rfl, rfl, part, missing⟩ :=
        ih ((List.prefix_append_right_inj _).1 begun) (fun same => broken (congrArg _ same))
      refine ⟨first :: done, payload, later, rest, rfl, ?_, part, missing⟩
      rw [stream_cons, List.append_assoc]
    · refine ⟨[], first, others, bytes, rfl, rfl, ?_, fun same => full (same ▸ List.prefix_rfl)⟩
      exact (List.prefix_or_prefix_of_prefix begun (List.prefix_append _ _)).resolve_right full

theorem stream_mono {ps qs : List (List UInt8)} (h : ps <+: qs) : stream ps <+: stream qs := by
  obtain ⟨more, rfl⟩ := h
  rw [stream_append]
  exact List.prefix_append _ _

/-- If a frame after some others is not complete, those others are all that are. -/
theorem stream_begins_iff {done later ps : List (List UInt8)} (part : rest <+: encode payload)
    (missing : rest ≠ encode payload) (among : ps <+: done ++ payload :: later) :
    stream ps <+: stream done ++ rest ↔ ps <+: done := by
  constructor
  · intro complete
    rcases List.prefix_or_prefix_of_prefix among (List.prefix_append done _) with within | ⟨more, rfl⟩
    · exact within
    · -- One more frame would have to be the one that is not complete.
      cases more with
      | nil => exact ⟨[], by rw [List.append_nil, List.append_nil]⟩
      | cons extra more =>
        rw [List.prefix_append_right_inj] at among
        obtain ⟨rfl, _⟩ := List.cons_prefix_cons.1 among
        rw [stream_append, stream_cons, List.prefix_append_right_inj] at complete
        have full : encode extra <+: rest := (List.prefix_append _ _).trans complete
        exact absurd (part.eq_of_length_le full.length_le) missing
  · intro within
    exact (stream_mono within).trans (List.prefix_append _ _)

/-- **A stream that breaks off gives the payloads whose frames are complete.** -/
theorem exists_breaksOff (allShort : ∀ p ∈ payloads, p.length < 2 ^ 32) (begun : bytes <+: stream payloads)
    (broken : bytes ≠ stream payloads) : ∃ done rest, BreaksOff payloads bytes done rest := by
  obtain ⟨done, payload, later, rest, rfl, rfl, part, missing⟩ := exists_of_begun begun broken
  have doneShort : ∀ p ∈ done, p.length < 2 ^ 32 := fun p member => allShort p (List.mem_append_left _ member)
  have unfinished : Unfinished rest :=
    ⟨payload, allShort payload (List.mem_append_right _ List.mem_cons_self), part, missing⟩
  exact ⟨done, rest, {
    recovered := takeFrames_eq_iff.2 ⟨rfl, doneShort, unfinished⟩
    complete := fun _ among => stream_begins_iff part missing among
    whole := rfl
    next := ⟨payload, later, rfl, part, missing⟩
    stuck := takeFrame_eq_none_iff.2 unfinished }⟩

/-! ## Reading back -/

/-- What becomes of a payload that is too long for its header: that holds the length modulo 2^32, so a reader
stops there and goes on in the midst of the payload, and no stream at all gives that payload. -/
structure Overlong (payload : List UInt8) : Prop where
  header : ∃ a b c d, encode payload = a :: b :: c :: d :: payload ∧ lengthOf a b c d = payload.length % 2 ^ 32
  cut : ∀ rest, takeFrame (encode payload ++ rest) =
    some (payload.take (payload.length % 2 ^ 32), payload.drop (payload.length % 2 ^ 32) ++ rest)
  lost : ∀ bytes, payload ∉ (takeFrames bytes).1

theorem overlong_of_le (long : 2 ^ 32 ≤ payload.length) : Overlong payload where
  header := ⟨_, _, _, _, rfl, lengthOf_lengthBytes _⟩
  cut := takeFrame_encode payload
  lost := by
    intro bytes recovered
    obtain ⟨_, allShort, _⟩ := takeFrames_eq_iff.1 (rfl : takeFrames bytes = (_, _))
    exact absurd (allShort payload recovered) (Nat.not_lt.2 long)

/-- **Frames are read back from their stream**: all of them, with nothing left over, and those that are
complete if the stream breaks off. So the stream tells what was sent. A payload that is too long for its
header is not read back. -/
theorem frames_read_back :
    (∀ payloads : List (List UInt8), (∀ p ∈ payloads, p.length < 2 ^ 32) →
      takeFrames (stream payloads) = (payloads, []) ∧
      ∀ bytes, bytes <+: stream payloads → bytes ≠ stream payloads →
        ∃ done rest, BreaksOff payloads bytes done rest) ∧
    (∀ ps qs : List (List UInt8), (∀ p ∈ ps, p.length < 2 ^ 32) → (∀ q ∈ qs, q.length < 2 ^ 32) →
      stream ps = stream qs → ps = qs) ∧
    ∀ payload : List UInt8, 2 ^ 32 ≤ payload.length → Overlong payload := by
  refine ⟨fun payloads allShort => ⟨takeFrames_stream allShort, ?_⟩, ?_, fun payload => overlong_of_le⟩
  · exact fun bytes begun broken => exists_breaksOff allShort begun broken
  · intro ps qs psShort qsShort same
    have read := takeFrames_stream psShort
    rw [same, takeFrames_stream qsShort] at read
    exact (Prod.mk.inj read).1.symm

/-- An empty payload, and two that are not. -/
def threePayloads : List (List UInt8) := [[], [123, 125], [7]]

/-- The shortest payload of zeros that is too long. -/
def zeros : List UInt8 := List.replicate (2 ^ 32) 0

/-- Of a stream that breaks off within the second of three frames, the first is read; of zeros that are too
many for their header, a reader takes none. -/
theorem frames_read_back_cut :
    takeFrames (stream threePayloads) = (threePayloads, []) ∧
      BreaksOff threePayloads [0, 0, 0, 0, 2, 0, 0, 0, 123] [[]] [2, 0, 0, 0, 123] ∧
      stream threePayloads ≠ stream threePayloads.reverse ∧
      (∀ rest, takeFrame (encode zeros ++ rest) = some ([], zeros ++ rest)) ∧
      ∀ bytes, zeros ∉ (takeFrames bytes).1 := by
  obtain ⟨reads, told, overlong⟩ := frames_read_back
  have short : ∀ p ∈ threePayloads, p.length < 2 ^ 32 := by decide
  have length : zeros.length = 2 ^ 32 := List.length_replicate
  obtain ⟨whole, broken⟩ := reads threePayloads short
  obtain ⟨done, rest, law⟩ := broken [0, 0, 0, 0, 2, 0, 0, 0, 123] (by decide) (by decide)
  have read : takeFrames [0, 0, 0, 0, 2, 0, 0, 0, 123] = ([[]], [2, 0, 0, 0, 123]) := by
    rw [takeFrames_of_some rfl, takeFrames_of_none rfl]
    rfl
  obtain ⟨rfl, rfl⟩ := Prod.mk.inj (law.recovered.symm.trans read)
  obtain ⟨_, cut, lost⟩ := overlong zeros (Nat.le_of_eq length.symm)
  refine ⟨whole, law, mt (told _ _ short (by decide)) (by decide), ?_, lost⟩
  intro rest
  rw [cut rest, length, Nat.mod_self, List.take_zero, List.drop_zero]

end MapBallot.Alert.Frame
