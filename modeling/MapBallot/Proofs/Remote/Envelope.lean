import MapBallot.Proofs.Json.Given
import MapBallot.Remote.Envelope

/-!
# `MapBallot.Proofs.Remote.Envelope` — what an envelope tells

An envelope is read together with its result. Here it is described without: what a draft tells of the
command, the failure, the error and the version, and what it has in the place of the result, unread.
Reading an envelope is then the description together with the reading of the result.

## Contents

* `Envelope.TextGiven`, `Envelope.ResultGiven` — a text that may be left out, and the unread result;
* `Envelope.Tells` — what a draft tells as an envelope, as an object or as a sequence;
* `Tells.unique` — a draft tells one thing;
* `Envelope.read_eq_ok_iff` — what is read as an envelope.
-/

namespace MapBallot.Json.Codec

variable {α : Type} {d : Draft}

theorem text_read_eq_ok_iff {s : String} : text.read d = .ok s ↔ d = .string (some s) := by
  constructor
  · intro h
    rcases d with _ | _ | _ | _ | (_ | s') | _ | _ <;> try cases h
    rfl
  · rintro rfl
    rfl

theorem truth_read_eq_ok_iff {b : Bool} : truth.read d = .ok b ↔ d = .bool b := by
  constructor
  · intro h
    rcases d with _ | _ | b' | _ | _ | _ | _ <;> try cases h
    rfl
  · rintro rfl
    rfl

theorem nullable_read_eq_ok_iff {c : Codec α} {o : Option α} :
    c.nullable.read d = .ok o ↔ (d = .null ∧ o = none) ∨ (d ≠ .null ∧ ∃ a, c.read d = .ok a ∧ o = some a) := by
  by_cases null : d = .null
  · subst null
    constructor
    · intro h
      exact .inl ⟨rfl, (Except.ok.inj h).symm⟩
    · rintro (⟨_, rfl⟩ | ⟨given, _⟩)
      · rfl
      · exact absurd rfl given
  · have read : c.nullable.read d = (c.read d).map some := by
      cases d with
      | null => exact absurd rfl null
      | broken | bool | number | string | array | object => rfl
    rw [read]
    constructor
    · intro h
      obtain ⟨a, value, rfl⟩ := map_eq_ok h
      exact .inr ⟨null, a, value, rfl⟩
    · rintro (⟨rfl, _⟩ | ⟨_, a, value, rfl⟩)
      · exact absurd rfl null
      · rw [value]
        rfl

end MapBallot.Json.Codec

namespace MapBallot.Remote.Envelope

open Json (Codec Draft Field Values given given_others others mem_others PassedOver isNamed)

variable {α : Type}

/-! ## What a draft tells -/

/-- A text that may be left out or be null. -/
inductive TextGiven : List Draft → Option String → Prop
  | absent : TextGiven [] none
  | null : TextGiven [.null] none
  | text (s : String) : TextGiven [.string (some s)] (some s)

/-- A result that may be left out or be null; it is not read. -/
inductive ResultGiven : List Draft → Option Draft → Prop
  | absent : ResultGiven [] none
  | null : ResultGiven [.null] none
  | result {d : Draft} (given : d ≠ .null) : ResultGiven [d] (some d)

/-- The names of an envelope's fields. -/
def names : List String := ["command", "failed", "error", "version", "result"]

/-- What a draft tells as an envelope. As an object, it gives a text to the command and a truth value to
the failure, and what it may give besides; no name is given twice, and members of other names are passed
over if they are not cut off. As a sequence, it has all five values in order. -/
inductive Tells : Draft → Envelope Draft → Prop
  | object {ms : List (Draft × Draft)} {e : Envelope Draft}
      (command : given "command" ms = [.string (some e.command)])
      (failed : given "failed" ms = [.bool e.failed])
      (error : TextGiven (given "error" ms) e.error)
      (version : TextGiven (given "version" ms) e.version)
      (result : ResultGiven (given "result" ms) e.result)
      (rest : ∀ m ∈ ms, (∀ name ∈ names, isNamed name m = false) → PassedOver false m) :
      Tells (.object ms true) e
  | sequence {error version result : Draft} {e : Envelope Draft}
      (hasError : TextGiven [error] e.error) (hasVersion : TextGiven [version] e.version)
      (hasResult : ResultGiven [result] e.result) :
      Tells (.array [.string (some e.command), .bool e.failed, error, version, result] true) e

theorem TextGiven.unique {ds : List Draft} {o o' : Option String} (h : TextGiven ds o)
    (h' : TextGiven ds o') : o = o' := by
  cases h <;> cases h' <;> rfl

theorem ResultGiven.unique {ds : List Draft} {o o' : Option Draft} (h : ResultGiven ds o)
    (h' : ResultGiven ds o') : o = o' := by
  cases h <;> cases h' <;> first | rfl | contradiction

/-- **A draft tells one thing as an envelope.** -/
theorem Tells.unique {d : Draft} {e e' : Envelope Draft} (h : Tells d e) (h' : Tells d e') : e = e' := by
  obtain ⟨command, failed, error, version, result⟩ := e
  obtain ⟨command', failed', error', version', result'⟩ := e'
  cases h with
  | object hasCommand hasFailed hasError hasVersion hasResult _ =>
    cases h' with
    | object hasCommand' hasFailed' hasError' hasVersion' hasResult' _ =>
      obtain rfl : command = command' := by simpa using hasCommand.symm.trans hasCommand'
      obtain rfl : failed = failed' := by simpa using hasFailed.symm.trans hasFailed'
      obtain rfl : error = error' := hasError.unique hasError'
      obtain rfl : version = version' := hasVersion.unique hasVersion'
      obtain rfl : result = result' := hasResult.unique hasResult'
      rfl
  | sequence hasError hasVersion hasResult =>
    cases h' with
    | sequence hasError' hasVersion' hasResult' =>
      obtain rfl : error = error' := hasError.unique hasError'
      obtain rfl : version = version' := hasVersion.unique hasVersion'
      obtain rfl : result = result' := hasResult.unique hasResult'
      rfl

/-! ## Reading an envelope -/

/-- The fields of an envelope. -/
theorem given_text_iff {name : String} {ds : List Draft} {o : Option String} :
    (Field.optional name .text).Given ds o ↔ TextGiven ds o := by
  constructor
  · rintro (⟨rfl, absent⟩ | ⟨d, rfl, read⟩)
    · obtain rfl := Option.some.inj absent
      exact .absent
    · rcases Codec.nullable_read_eq_ok_iff.1 read with ⟨rfl, rfl⟩ | ⟨_, s, text, rfl⟩
      · exact .null
      · obtain rfl := Codec.text_read_eq_ok_iff.1 text
        exact .text s
  · rintro (_ | _ | s)
    · exact .inl ⟨rfl, rfl⟩
    · exact .inr ⟨_, rfl, rfl⟩
    · exact .inr ⟨_, rfl, rfl⟩

theorem given_result_iff {name : String} {payload : Codec α} {ds : List Draft} {o : Option α} :
    (Field.optionalInObject name payload).Given ds o ↔
      ∃ result, ResultGiven ds result ∧ Option.Rel (fun d a => payload.read d = .ok a) result o := by
  constructor
  · rintro (⟨rfl, absent⟩ | ⟨d, rfl, read⟩)
    · obtain rfl := Option.some.inj absent
      exact ⟨none, .absent, .none⟩
    · rcases Codec.nullable_read_eq_ok_iff.1 read with ⟨rfl, rfl⟩ | ⟨given, a, value, rfl⟩
      · exact ⟨none, .null, .none⟩
      · exact ⟨some d, .result given, .some value⟩
  · rintro ⟨_, _ | _ | given, rel⟩
    · cases rel
      exact .inl ⟨rfl, rfl⟩
    · cases rel
      exact .inr ⟨_, rfl, rfl⟩
    · cases rel with
      | some value => exact .inr ⟨_, rfl, Codec.nullable_read_eq_ok_iff.2 (.inr ⟨given, _, value, rfl⟩)⟩

theorem given_required_iff {name : String} {c : Codec α} {ds : List Draft} {a : α} :
    (Field.required name c).Given ds a ↔ ∃ d, ds = [d] ∧ c.read d = .ok a := by
  constructor
  · rintro (⟨_, ⟨⟩⟩ | given)
    exact given
  · exact .inr

/-- The fields of an envelope in an object, each from what is given to its own name. -/
theorem given_fields_iff {payload : Codec α} {ms : List (Draft × Draft)} {command : String} {failed : Bool}
    {error version : Option String} {o : Option α} :
    Values.Given false (fields payload) ms (command, failed, error, version, o, ()) ↔
      given "command" ms = [.string (some command)] ∧ given "failed" ms = [.bool failed] ∧
      TextGiven (given "error" ms) error ∧ TextGiven (given "version" ms) version ∧
      (∃ result, ResultGiven (given "result" ms) result ∧
        Option.Rel (fun d a => payload.read d = .ok a) result o) ∧
      ∀ m ∈ ms, (∀ name ∈ names, isNamed name m = false) → PassedOver false m := by
  have unfolded : Values.Given false (fields payload) ms (command, failed, error, version, o, ()) ↔
      (Field.required "command" .text).Given (given "command" ms) command ∧
      (Field.required "failed" .truth).Given (given "failed" (others "command" ms)) failed ∧
      (Field.optional "error" .text).Given (given "error" (others "failed" (others "command" ms))) error ∧
      (Field.optional "version" .text).Given
        (given "version" (others "error" (others "failed" (others "command" ms)))) version ∧
      (Field.optionalInObject "result" payload).Given
        (given "result" (others "version" (others "error" (others "failed" (others "command" ms))))) o ∧
      ∀ m ∈ others "result" (others "version" (others "error" (others "failed" (others "command" ms)))),
        PassedOver false m := Iff.rfl
  -- The members that are left for a field still have everything that is given to its name.
  have apart (name name' : String) (h : name ≠ name') (ms : List (Draft × Draft)) :
      given name' (others name ms) = given name' ms := given_others h ms
  rw [unfolded, apart "command" "failed" (by decide), apart "failed" "error" (by decide),
    apart "command" "error" (by decide), apart "error" "version" (by decide),
    apart "failed" "version" (by decide), apart "command" "version" (by decide),
    apart "version" "result" (by decide), apart "error" "result" (by decide),
    apart "failed" "result" (by decide), apart "command" "result" (by decide),
    given_required_iff, given_required_iff, given_text_iff, given_text_iff, given_result_iff]
  have left : (∀ m ∈ others "result" (others "version" (others "error" (others "failed" (others "command" ms)))),
      PassedOver false m) ↔ ∀ m ∈ ms, (∀ name ∈ names, isNamed name m = false) → PassedOver false m := by
    simp [mem_others, names]
  simp only [left, Codec.text_read_eq_ok_iff, Codec.truth_read_eq_ok_iff, exists_eq_right]

/-- The fields of an envelope in a sequence, which must reach the result. -/
theorem listed_fields_iff {payload : Codec α} {ds : List Draft} {command : String} {failed : Bool}
    {error version : Option String} {o : Option α} :
    Values.Listed (fields payload) ds (command, failed, error, version, o, ()) ↔
      ∃ d d' d'', ds = [.string (some command), .bool failed, d, d', d''] ∧
        TextGiven [d] error ∧ TextGiven [d'] version ∧
        ∃ result, ResultGiven [d''] result ∧
          Option.Rel (fun d a => payload.read d = .ok a) result o := by
  constructor
  · intro listed
    rcases ds with _ | ⟨d₁, _ | ⟨d₂, _ | ⟨d₃, _ | ⟨d₄, _ | ⟨d₅, ds⟩⟩⟩⟩⟩
    · cases listed.1
    · cases listed.2.1
    · cases listed.2.2.2.2.1
    · cases listed.2.2.2.2.1
    · cases listed.2.2.2.2.1
    · obtain ⟨hasCommand, hasFailed, hasError, hasVersion, hasResult, last⟩ := listed
      obtain rfl := Codec.text_read_eq_ok_iff.1 hasCommand
      obtain rfl := Codec.truth_read_eq_ok_iff.1 hasFailed
      obtain rfl : ds = [] := last
      exact ⟨d₃, d₄, d₅, rfl, given_text_iff.1 (Field.given_singleton_iff.2 hasError),
        given_text_iff.1 (Field.given_singleton_iff.2 hasVersion),
        given_result_iff.1 (Field.given_singleton_iff.2 hasResult)⟩
  · rintro ⟨d, d', d'', rfl, hasError, hasVersion, hasResult⟩
    exact ⟨rfl, rfl, Field.given_singleton_iff.1 (given_text_iff.2 hasError),
      Field.given_singleton_iff.1 (given_text_iff.2 hasVersion),
      Field.given_singleton_iff.1 (given_result_iff.2 hasResult), rfl⟩

/-- **What is read as an envelope** is what the draft tells, with its result read as the payload. -/
theorem read_eq_ok_iff {payload : Codec α} {d : Draft} {e : Envelope α} :
    (codec payload).read d = .ok e ↔
      ∃ result, Tells d ⟨e.command, e.failed, e.error, e.version, result⟩ ∧
        Option.Rel (fun d a => payload.read d = .ok a) result e.result := by
  obtain ⟨command, failed, error, version, o⟩ := e
  have whole : (codec payload).read d = .ok ⟨command, failed, error, version, o⟩ ↔
      Values.read ⟨"ApiResult", false, true⟩ (fields payload) d =
        .ok (command, failed, error, version, o, ()) := by
    constructor
    · intro h
      obtain ⟨⟨command', failed', error', version', o', ⟨⟩⟩, read, same⟩ := Codec.map_eq_ok h
      cases same
      exact read
    · intro h
      show (Values.read _ _ d).map _ = _
      rw [h]
      rfl
  refine whole.trans (Values.read_eq_ok_iff.trans ?_)
  constructor
  · rintro (⟨ms, rfl, fields⟩ | ⟨ds, rfl, listed⟩)
    · obtain ⟨hasCommand, hasFailed, hasError, hasVersion, ⟨result, hasResult, rel⟩, rest⟩ :=
        given_fields_iff.1 fields
      exact ⟨result, .object hasCommand hasFailed hasError hasVersion hasResult rest, rel⟩
    · obtain ⟨_, _, _, rfl, hasError, hasVersion, result, hasResult, rel⟩ := listed_fields_iff.1 listed
      have told := Tells.sequence (e := ⟨command, failed, error, version, result⟩) hasError hasVersion hasResult
      exact ⟨result, told, rel⟩
  · rintro ⟨result, told, rel⟩
    cases told with
    | object hasCommand hasFailed hasError hasVersion hasResult rest =>
      exact .inl ⟨_, rfl, given_fields_iff.2
        ⟨hasCommand, hasFailed, hasError, hasVersion, ⟨result, hasResult, rel⟩, rest⟩⟩
    | sequence hasError hasVersion hasResult =>
      exact .inr ⟨_, rfl, listed_fields_iff.2
        ⟨_, _, _, rfl, hasError, hasVersion, result, hasResult, rel⟩⟩

end MapBallot.Remote.Envelope
