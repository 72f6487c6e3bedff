import MapBallot.Proofs.Remote.Envelope
import MapBallot.Remote.Client

/-!
# `MapBallot.Proofs.Remote.Answer` — which answer an exchange gives

A completed exchange has a status and a body. The status decides first, then whether the body holds an
envelope, then whether the envelope reports a failure, then its result. An envelope is read together with
its result, though: one that reports a failure is only seen to do so if its result has the form that the
call asks for. The calls that ask for nothing take any result.

## Contents

* `Envelope.InText` — a text holds an envelope;
* `resultOf_of_inText`, `resultOf_undecodable` — the result that a body gives;
* `Call.resultCodec`, `Call.conclude`, `interpret_eq` — the five calls in one form;
* `Call.Fits`, `Call.Gives` — results that can be read, and the value a call answers with;
* `interpret_of_failed`, `interpret_of_gives` and others — the answer, by what the envelope tells;
* `Call.Classified`, `interpret_classified` — all answers to a completed exchange;
* `interpret_hidden` — a failure that is not seen.
-/

namespace MapBallot.Remote

open Json (Codec Draft)

variable {α : Type}

/-! ## Bodies -/

/-- The text holds an envelope, and nothing behind it. -/
def Envelope.InText (text : String) (e : Envelope Draft) : Prop :=
  ∃ d, Draft.ofText text = (d, true) ∧ Envelope.Tells d e

/-- The reader of a payload accepts the unread result, if there is one. -/
def ReadsAs (payload : Codec α) : Option Draft → Option α → Prop :=
  Option.Rel fun d a => payload.read d = .ok a

theorem Envelope.InText.unique {text : String} {e e' : Envelope Draft} (h : InText text e)
    (h' : InText text e') : e = e' := by
  obtain ⟨d, held, told⟩ := h
  obtain ⟨d', held', told'⟩ := h'
  obtain rfl : d = d' := congrArg Prod.fst (held.symm.trans held')
  exact told.unique told'

theorem Envelope.ofText_eq_ok_iff {payload : Codec α} {text : String} {e : Envelope α} :
    (Envelope.codec payload).ofText text = .ok e ↔
      ∃ result, InText text ⟨e.command, e.failed, e.error, e.version, result⟩ ∧
        ReadsAs payload result e.result := by
  unfold Codec.ofText Codec.readText InText
  generalize Draft.ofText text = draft
  obtain ⟨d, ended⟩ := draft
  dsimp only
  constructor
  · intro h
    cases value : (Envelope.codec payload).read d with
    | error fault =>
      rw [value] at h
      cases h
    | ok e' =>
      rw [value] at h
      cases ended with
      | false => cases h
      | true =>
        obtain rfl := Except.ok.inj h
        obtain ⟨result, told, rel⟩ := Envelope.read_eq_ok_iff.1 value
        exact ⟨result, ⟨d, rfl, told⟩, rel⟩
  · rintro ⟨result, ⟨_, ⟨⟩, told⟩, rel⟩
    rw [Envelope.read_eq_ok_iff.2 ⟨result, told, rel⟩]
    rfl

section

variable {payload : Codec α} {endpoint body : String}

/-- An envelope whose result can be read decides what its body gives. -/
theorem resultOf_of_inText {e : Envelope Draft} (held : Envelope.InText body e) {o : Option α}
    (rel : ReadsAs payload e.result o) :
    resultOf endpoint payload body =
      if e.failed then .error (.rejected e.command (e.error.getD "")) else .ok o := by
  have read : (Envelope.codec payload).ofText body = .ok ⟨e.command, e.failed, e.error, e.version, o⟩ :=
    Envelope.ofText_eq_ok_iff.2 ⟨e.result, held, rel⟩
  unfold resultOf
  rw [read]

/-- A body without such an envelope cannot be decoded. -/
theorem resultOf_undecodable (endpoint : String)
    (h : ∀ e o, Envelope.InText body e → ¬ ReadsAs payload e.result o) :
    ∃ message, resultOf endpoint payload body = .error (.decode endpoint message) := by
  unfold resultOf
  cases read : (Envelope.codec payload).ofText body with
  | error fault => exact ⟨fault.message, rfl⟩
  | ok e =>
    obtain ⟨result, held, rel⟩ := Envelope.ofText_eq_ok_iff.1 read
    exact absurd rel (h _ _ held)

end

/-! ## The calls in one form -/

namespace Call

/-- What a call asks for. -/
abbrev Result : Call → Type
  | catalog => List LayerRecord
  | settings => Settings
  | getWhitelist => List String
  | setWhitelist _ | reset => Json

/-- The form of what a call asks for; the calls that change something ask for nothing in particular. -/
def resultCodec : (c : Call) → Codec c.Result
  | catalog => .list LayerRecord.codec
  | settings => Settings.codec
  | getWhitelist => .list .text
  | setWhitelist _ | reset => anyDocument

/-- The value a call answers with. The calls that read need a result for it. -/
def conclude : (c : Call) → Option c.Result → Option c.Payload
  | catalog, o => o.map (List.map LayerRecord.layer)
  | settings, o => o
  | getWhitelist, o => o.map Whitelist.mk
  | setWhitelist _, _ | reset, _ => some ()

theorem interpret_eq (c : Call) (x : Exchange) :
    c.interpret x = resultOfExchange c.endpoint c.resultCodec x >>= fun o =>
      match c.conclude o with
      | some a => .ok a
      | none => .error (.decode c.endpoint "response carried no result") := by
  cases c with
  | catalog =>
    show (required _ (resultOfExchange catalog.endpoint (.list LayerRecord.codec) x)).map _ =
      resultOfExchange catalog.endpoint (.list LayerRecord.codec) x >>= _
    rcases resultOfExchange catalog.endpoint (.list LayerRecord.codec) x with e | (_ | a) <;> rfl
  | settings =>
    show required _ (resultOfExchange settings.endpoint Settings.codec x) =
      resultOfExchange settings.endpoint Settings.codec x >>= _
    rcases resultOfExchange settings.endpoint Settings.codec x with e | (_ | a) <;> rfl
  | getWhitelist =>
    show (required _ (resultOfExchange getWhitelist.endpoint (.list .text) x)).map _ =
      resultOfExchange getWhitelist.endpoint (.list .text) x >>= _
    rcases resultOfExchange getWhitelist.endpoint (.list .text) x with e | (_ | a) <;> rfl
  | setWhitelist ids =>
    show (resultOfExchange (setWhitelist ids).endpoint anyDocument x).map _ =
      resultOfExchange (setWhitelist ids).endpoint anyDocument x >>= _
    rcases resultOfExchange (setWhitelist ids).endpoint anyDocument x with e | o <;> rfl
  | reset =>
    show (resultOfExchange reset.endpoint anyDocument x).map _ =
      resultOfExchange reset.endpoint anyDocument x >>= _
    rcases resultOfExchange reset.endpoint anyDocument x with e | o <;> rfl

/-! ## All answers -/

/-- The result has the form that a call asks for, or there is none. -/
def Fits (c : Call) (result : Option Draft) : Prop := ∃ o, ReadsAs c.resultCodec result o

/-- The value that a call answers with, given the result of an envelope. The calls that read need a
result of their form; the calls that change something need none, and any document will do. -/
inductive Gives : (c : Call) → Option Draft → c.Payload → Prop
  | catalog {d : Draft} {rs : List LayerRecord} (read : (Codec.list LayerRecord.codec).read d = .ok rs) :
      Gives catalog (some d) (rs.map LayerRecord.layer)
  | settings {d : Draft} {s : Settings} (read : Settings.codec.read d = .ok s) : Gives settings (some d) s
  | getWhitelist {d : Draft} {ids : List String} (read : (Codec.list .text).read d = .ok ids) :
      Gives getWhitelist (some d) ⟨ids⟩
  | setWhitelist {result : Option Draft} (ids : List String) (fits : (setWhitelist ids).Fits result) :
      Gives (setWhitelist ids) result ()
  | reset {result : Option Draft} (fits : reset.Fits result) : Gives reset result ()

theorem gives_iff {c : Call} {result : Option Draft} {a : c.Payload} :
    c.Gives result a ↔ ∃ o, ReadsAs c.resultCodec result o ∧ c.conclude o = some a := by
  constructor
  · intro h
    cases h with
    | catalog read | settings read | getWhitelist read => exact ⟨_, .some read, rfl⟩
    | setWhitelist ids fits | reset fits =>
      obtain ⟨o, rel⟩ := fits
      exact ⟨o, rel, rfl⟩
  · rintro ⟨o, rel, concluded⟩
    cases c with
    | catalog | settings | getWhitelist =>
      cases rel with
      | none => cases concluded
      | some read =>
        obtain rfl := Option.some.inj concluded
        first | exact .catalog read | exact .settings read | exact .getWhitelist read
    | setWhitelist ids => exact .setWhitelist ids ⟨o, rel⟩
    | reset => exact .reset ⟨o, rel⟩

/-- The answer of a call says that the body could not be decoded. -/
def Undecodable (c : Call) (answer : c.Answer) : Prop := ∃ message, answer = .error (.decode c.endpoint message)

/-- Which answer a completed exchange gives to a call. -/
structure Classified (c : Call) (status : Nat) (body : String) (answer : c.Answer) : Prop where
  /-- A status that is no success decides, whatever the body. -/
  noSuccess : isSuccess status = false → answer = .error (.status c.endpoint status)
  /-- A body that holds no envelope cannot be decoded. -/
  noEnvelope : isSuccess status = true → (∀ e, ¬ Envelope.InText body e) → c.Undecodable answer
  /-- A failure is reported with its command and its error text, if the result has the form asked for. -/
  refused : ∀ e, isSuccess status = true → Envelope.InText body e → e.failed = true → c.Fits e.result →
    answer = .error (.rejected e.command (e.error.getD ""))
  /-- A failure is hidden by a result of another form. -/
  hidden : ∀ e, isSuccess status = true → Envelope.InText body e → e.failed = true → ¬ c.Fits e.result →
    c.Undecodable answer
  /-- Without a failure, a result that gives no value cannot be decoded. -/
  missing : ∀ e, isSuccess status = true → Envelope.InText body e → e.failed = false →
    (∀ a, ¬ c.Gives e.result a) → c.Undecodable answer
  /-- A value is answered exactly if an envelope without a failure gives it. -/
  value : ∀ a, answer = .ok a ↔
    isSuccess status = true ∧ ∃ e, Envelope.InText body e ∧ e.failed = false ∧ c.Gives e.result a

theorem interpret_of_not_success (c : Call) {status : Nat} (h : isSuccess status = false) (body : String) :
    c.interpret (.answered status body) = .error (.status c.endpoint status) := by
  rw [interpret_eq, resultOfExchange, if_neg (by simp [h])]
  rfl

section

variable {c : Call} {status : Nat} {body : String}

theorem interpret_undecodable (success : isSuccess status = true)
    (h : ∀ e o, Envelope.InText body e → ¬ ReadsAs c.resultCodec e.result o) :
    c.Undecodable (c.interpret (.answered status body)) := by
  obtain ⟨message, undecodable⟩ := resultOf_undecodable c.endpoint h
  refine ⟨message, ?_⟩
  rw [interpret_eq, resultOfExchange, if_pos success, undecodable]
  rfl

theorem interpret_of_inText (success : isSuccess status = true) {e : Envelope Draft}
    (held : Envelope.InText body e) {o : Option c.Result} (rel : ReadsAs c.resultCodec e.result o) :
    c.interpret (.answered status body) =
      if e.failed then .error (.rejected e.command (e.error.getD ""))
      else match c.conclude o with
        | some a => .ok a
        | none => .error (.decode c.endpoint "response carried no result") := by
  rw [interpret_eq, resultOfExchange, if_pos success, resultOf_of_inText held rel]
  cases e.failed <;> rfl

theorem Undecodable.ne_ok {answer : c.Answer} (h : c.Undecodable answer) (a : c.Payload) :
    answer ≠ .ok a := by
  obtain ⟨message, rfl⟩ := h
  exact nofun

variable {e : Envelope Draft} (success : isSuccess status = true) (held : Envelope.InText body e)

include success

theorem interpret_of_no_envelope (none : ∀ e, ¬ Envelope.InText body e) :
    c.Undecodable (c.interpret (.answered status body)) :=
  interpret_undecodable success fun e _ held => absurd held (none e)

include held

/-- A result of another form hides what the envelope says. -/
theorem interpret_of_not_fits (misfit : ¬ c.Fits e.result) :
    c.Undecodable (c.interpret (.answered status body)) := by
  refine interpret_undecodable success fun e' o held' rel => ?_
  obtain rfl := held.unique held'
  exact misfit ⟨o, rel⟩

theorem interpret_of_failed (failed : e.failed = true) (fits : c.Fits e.result) :
    c.interpret (.answered status body) = .error (.rejected e.command (e.error.getD "")) := by
  obtain ⟨o, rel⟩ := fits
  rw [interpret_of_inText success held rel, if_pos failed]

theorem interpret_of_gives (unfailed : e.failed = false) {a : c.Payload} (gives : c.Gives e.result a) :
    c.interpret (.answered status body) = .ok a := by
  obtain ⟨o, rel, concluded⟩ := gives_iff.1 gives
  rw [interpret_of_inText success held rel, if_neg (by simp [unfailed]), concluded]

theorem interpret_of_missing (unfailed : e.failed = false) (none : ∀ a, ¬ c.Gives e.result a) :
    c.Undecodable (c.interpret (.answered status body)) := by
  by_cases fits : c.Fits e.result
  · obtain ⟨o, rel⟩ := fits
    rw [interpret_of_inText success held rel, if_neg (by simp [unfailed])]
    cases concluded : c.conclude o with
    | some a => exact absurd (gives_iff.2 ⟨o, rel, concluded⟩) (none a)
    | none => exact ⟨_, rfl⟩
  · exact interpret_of_not_fits success held fits

end

/-- A value is answered only if an envelope gives it. -/
theorem gives_of_interpret {c : Call} {status : Nat} {body : String} {a : c.Payload}
    (answered : c.interpret (.answered status body) = .ok a) :
    isSuccess status = true ∧ ∃ e, Envelope.InText body e ∧ e.failed = false ∧ c.Gives e.result a := by
  have success : isSuccess status = true := by
    by_contra other
    rw [interpret_of_not_success c (Bool.eq_false_iff.2 other)] at answered
    cases answered
  obtain ⟨e, held⟩ : ∃ e, Envelope.InText body e := by
    by_contra none
    exact (interpret_of_no_envelope success (not_exists.1 none)).ne_ok a answered
  have fits : c.Fits e.result := by
    by_contra misfit
    exact (interpret_of_not_fits success held misfit).ne_ok a answered
  have unfailed : e.failed = false := by
    by_contra failed
    rw [interpret_of_failed success held (eq_true_of_ne_false failed) fits] at answered
    cases answered
  obtain ⟨a', gives⟩ : ∃ a', c.Gives e.result a' := by
    by_contra none
    exact (interpret_of_missing success held unfailed (not_exists.1 none)).ne_ok a answered
  obtain rfl : a' = a := Except.ok.inj ((interpret_of_gives success held unfailed gives).symm.trans answered)
  exact ⟨success, e, held, unfailed, gives⟩

/-- **Which answer every completed exchange gives**, for every call. -/
theorem interpret_classified (c : Call) (status : Nat) (body : String) :
    c.Classified status body (c.interpret (.answered status body)) where
  noSuccess h := interpret_of_not_success c h body
  noEnvelope := interpret_of_no_envelope
  refused _ := interpret_of_failed
  hidden _ success held _ := interpret_of_not_fits success held
  missing _ := interpret_of_missing
  value _ := by
    refine ⟨gives_of_interpret, ?_⟩
    rintro ⟨success, e, held, unfailed, gives⟩
    exact interpret_of_gives success held unfailed gives

/-- A body that reports a failure and has an object in the place of the result. -/
def refusal : String :=
  "\x7b\"command\":\"get_votemap_whitelist\",\"failed\":true,\"error\":\"denied\",\"result\":\x7b\x7d\x7d"

/-- **A failure is not always seen.** The body reports one, and to a call that asks for nothing that is
the answer; to a call that asks for a whitelist it cannot be decoded. -/
theorem interpret_hidden :
    (∃ result, Envelope.InText refusal ⟨"get_votemap_whitelist", true, some "denied", none, result⟩) ∧
    reset.interpret (.answered 200 refusal) = .error (.rejected "get_votemap_whitelist" "denied") ∧
    getWhitelist.interpret (.answered 200 refusal) =
      .error (.decode "api/get_votemap_whitelist" "invalid type: map, expected a sequence") := by
  refine ⟨?_, ?_, ?_⟩
  · -- The object in the place of the result would do as vote settings.
    have read : (Envelope.codec Settings.codec).ofText refusal =
      .ok ⟨"get_votemap_whitelist", true, some "denied", none, some {}⟩ := by decide +kernel
    obtain ⟨result, held, _⟩ := Envelope.ofText_eq_ok_iff.1 read
    exact ⟨result, held⟩
  · decide +kernel
  · decide +kernel

end Call

end MapBallot.Remote
