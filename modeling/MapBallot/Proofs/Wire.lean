import MapBallot.Proofs.History.Tracker
import MapBallot.Proofs.Json.RoundTrip
import MapBallot.Remote.Call
import MapBallot.Remote.Envelope
import MapBallot.Score.Policy

/-!
# `MapBallot.Proofs.Wire` — what goes over the wire comes back as it was

The service writes and reads layers, settings, answers, plans, policies and histories. Each kind has one
list of fields for both directions, but the directions treat absent values, repeated names and the order of
rounds differently. Here every kind makes the round trip, through a text of either printer.

## Contents

* the codecs of the kinds, from the leaves up;
* `WireType` — the kinds of values that are both written and read;
* `WireType.codecs_agree` — the round trip.
-/

namespace MapBallot

open Json (Codec Field Printed)
open Json.Codec
open Json.Field

/-! ## Records -/

theorem Environment.codec_roundTrips : Environment.codec.RoundTrips :=
  named_roundTrips ofName?_name

theorem GameMode.codec_roundTrips : GameMode.codec.RoundTrips :=
  named_roundTrips ofName?_name

theorem Team.codec_roundTrips : Team.codec.RoundTrips :=
  named_roundTrips ofName?_name

theorem Layer.codec_roundTrips : Layer.codec.RoundTrips := by
  refine record_roundTrips (by decide) ?_ fun _ => rfl
  simp only [Layer.fields, List.forall_mem_cons]
  exact ⟨required_roundTrips _ text_roundTrips, required_roundTrips _ text_roundTrips,
    required_roundTrips _ Environment.codec_roundTrips, required_roundTrips _ GameMode.codec_roundTrips,
    omitted_roundTrips _ Team.codec_roundTrips nofun, nofun⟩

theorem MapRecord.codec_roundTrips : MapRecord.codec.RoundTrips := by
  refine record_roundTrips (by decide) ?_ fun _ => rfl
  simp only [MapRecord.fields, List.forall_mem_cons]
  exact ⟨required_roundTrips _ text_roundTrips, optional_roundTrips _ text_roundTrips nofun,
    optional_roundTrips _ text_roundTrips nofun, nofun⟩

theorem LayerRecord.codec_roundTrips : LayerRecord.codec.RoundTrips := by
  refine record_roundTrips (by decide) ?_ fun _ => rfl
  simp only [LayerRecord.fields, List.forall_mem_cons]
  exact ⟨required_roundTrips _ text_roundTrips, required_roundTrips _ MapRecord.codec_roundTrips,
    required_roundTrips _ GameMode.codec_roundTrips, optional_roundTrips _ Team.codec_roundTrips nofun,
    withDefault_roundTrips _ Environment.codec_roundTrips _, optional_roundTrips _ text_roundTrips nofun,
    nofun⟩

theorem ExclusionRules.codec_roundTrips : ExclusionRules.codec.RoundTrips := by
  refine record_roundTrips (by decide) ?_ fun _ => rfl
  simp only [ExclusionRules.fields, List.forall_mem_cons]
  exact ⟨withDefault_roundTrips _ (word64_roundTrips _) _, withDefault_roundTrips _ truth_roundTrips _,
    withDefault_roundTrips _ truth_roundTrips _, withDefault_roundTrips _ truth_roundTrips _,
    withDefault_roundTrips _ truth_roundTrips _, withDefault_roundTrips _ truth_roundTrips _, nofun⟩

theorem Policy.codec_roundTrips : Policy.codec.RoundTrips := by
  refine record_roundTrips (by decide) ?_ fun _ => rfl
  simp only [Policy.fields, List.forall_mem_cons]
  exact ⟨required_roundTrips _ word32_roundTrips, required_roundTrips _ truth_roundTrips,
    withDefault_roundTrips _ ExclusionRules.codec_roundTrips _, nofun⟩

theorem RoundStart.codec_roundTrips : RoundStart.codec.RoundTrips := by
  refine record_roundTrips (by decide) ?_ fun _ => rfl
  simp only [RoundStart.fields, List.forall_mem_cons]
  exact ⟨required_roundTrips _ text_roundTrips, required_roundTrips _ Environment.codec_roundTrips,
    required_roundTrips _ (word64_roundTrips _), optional_roundTrips _ text_roundTrips nofun, nofun⟩

namespace Remote

theorem Settings.codec_roundTrips : Settings.codec.RoundTrips := by
  refine record_roundTrips (by decide) ?_ fun _ => rfl
  simp only [Settings.fields, List.forall_mem_cons]
  exact ⟨withDefault_roundTrips _ truth_roundTrips _, withDefault_roundTrips _ (word64_roundTrips _) _,
    withDefault_roundTrips _ (word64_roundTrips _) _, withDefault_roundTrips _ (word64_roundTrips _) _,
    withDefault_roundTrips _ (word64_roundTrips _) _, withDefault_roundTrips _ truth_roundTrips _,
    withDefault_roundTrips _ truth_roundTrips _, withDefault_roundTrips _ truth_roundTrips _,
    withDefault_roundTrips _ truth_roundTrips _, withDefault_roundTrips _ truth_roundTrips _, nofun⟩

theorem Whitelist.codec_roundTrips : Whitelist.codec.RoundTrips := by
  refine record_roundTrips (by decide) ?_ fun _ => rfl
  simp only [List.forall_mem_cons]
  exact ⟨required_roundTrips _ (list_roundTrips text_roundTrips), nofun⟩

theorem Envelope.codec_roundTrips {α : Type} {payload : Codec α} (h : payload.RoundTrips)
    (given : ∀ a, payload.write a ≠ .null) : (Envelope.codec payload).RoundTrips := by
  have distinct : ((Envelope.fields payload).map Field.name).Nodup :=
    (by decide : ["command", "failed", "error", "version", "result"].Nodup)
  refine record_roundTrips distinct ?_ fun _ => rfl
  simp only [Envelope.fields, List.forall_mem_cons]
  exact ⟨required_roundTrips _ text_roundTrips, required_roundTrips _ truth_roundTrips,
    optional_roundTrips _ text_roundTrips nofun, optional_roundTrips _ text_roundTrips nofun,
    optionalInObject_roundTrips _ h given, nofun⟩

end Remote

/-! ## Plans, moments and histories -/

namespace Plan

/-- The entries of a plan give its counts back, over whatever counts there were. -/
theorem listed_foldl_set (p q : Plan) (ms : List GameMode) (m : GameMode) :
    ((ms.filterMap fun m => (p.listed m).map fun n => (m, n)).foldl
      (fun q (m, n) => q.set m n) q).listed m =
      if m ∈ ms then (p.listed m <|> q.listed m) else q.listed m := by
  induction ms generalizing q with
  | nil => rfl
  | cons m' ms ih =>
    cases count : p.listed m' with
    | none =>
      rw [List.filterMap_cons_none (by rw [count]; rfl), ih]
      by_cases same : m = m'
      · subst same
        simp [count]
      · simp [same]
    | some n =>
      rw [List.filterMap_cons_some (b := (m', n)) (by rw [count]; rfl), List.foldl_cons, ih]
      by_cases same : m = m'
      · subst same
        simp [count, listed_set_self]
      · simp [same, listed_set_of_ne]

/-- The entries of a plan are all that it lists. -/
theorem ofEntries_entries (p : Plan) : ofEntries p.entries = p := by
  obtain ⟨listed⟩ := p
  refine congrArg Plan.mk (funext fun m => ?_)
  have back := listed_foldl_set ⟨listed⟩ empty GameMode.all m
  rw [if_pos m.mem_all] at back
  refine back.trans ?_
  show (listed m <|> none) = listed m
  cases listed m <;> rfl

theorem codec_roundTrips : codec.RoundTrips where
  exact p := exact_dictionary (word64_roundTrips "usize") p.entries
  faithful p := by
    have named (m : GameMode) : lookup (GameMode.all.map GameMode.name) GameMode.ofName? m.name = .ok m := by
      rw [lookup, GameMode.ofName?_name]
    have read := readDictionary_write named (word64_roundTrips "usize") "a map" p.entries
    show (readDictionary _ _ _ (.ofJson (codec.write p))).map ofEntries = _
    refine (congrArg (Except.map ofEntries) read).trans ?_
    exact congrArg Except.ok p.ofEntries_entries

end Plan

namespace Instant

theorem fields_roundTrip : ∀ f ∈ fields, f.RoundTrips := by
  simp only [fields, List.forall_mem_cons]
  exact ⟨required_roundTrips _ (word64_roundTrips _), required_roundTrips _ word32_roundTrips, nofun⟩

theorem codec_roundTrips : codec.RoundTrips where
  exact t := Json.exact_toMembers fields_roundTrip (t.seconds, t.nanos, ())
  faithful t := by
    have parts : Json.Values.read ⟨"SystemTime", true, false⟩ fields (.ofJson (codec.write t)) =
        .ok (t.seconds, t.nanos, ()) :=
      Json.Values.read_toMembers _ (by decide) fields_roundTrip (t.seconds, t.nanos, ())
    have none : t.nanos.toNat / nanosPerSecond = 0 := Nat.div_eq_of_lt t.nanos_lt
    have total : wholeSeconds t.seconds t.nanos = .ok t.seconds.toNat := by
      rw [wholeSeconds, none, Nat.add_zero]
      exact if_neg (Nat.not_le.2 t.seconds.toNat_lt)
    have read : readParts (.ofJson (codec.write t)) = .ok (t.seconds.toNat, t.nanos) := by
      show (Json.Values.read _ _ (.ofJson (codec.write t)) >>= _) = _
      rw [parts]
      show (wholeSeconds t.seconds t.nanos >>= _) = _
      rw [total]
      rfl
    have whole : ofWhole t.seconds.toNat t.nanos = .ok t := by
      obtain ⟨seconds, nanos, seconds_lt, nanos_lt⟩ := t
      rw [ofWhole, dif_pos seconds_lt]
      simp only [Nat.mod_eq_of_lt nanos_lt, UInt64.ofNat_toNat, UInt32.ofNat_toNat]
    show (readParts (.ofJson (codec.write t)) >>= _) = _
    rw [read]
    exact whole

end Instant

theorem Play.codec_roundTrips (now : Instant) : (Play.codec now).RoundTrips := by
  have distinct : ((Play.fields now).map Field.name).Nodup :=
    (by decide : ["map", "environment", "round_index", "layer_id", "recorded_at"].Nodup)
  refine record_roundTrips distinct ?_ fun _ => rfl
  simp only [Play.fields, List.forall_mem_cons]
  exact ⟨required_roundTrips _ text_roundTrips, required_roundTrips _ Environment.codec_roundTrips,
    required_roundTrips _ (word64_roundTrips _), omitted_roundTrips _ text_roundTrips nofun,
    withDefault_roundTrips _ Instant.codec_roundTrips now, nofun⟩

/-- A history is in order already. -/
theorem History.ofPlays_plays (h : History) : ofPlays h.plays = h := eq_of_plays (ofPlays_eq h.ascending)

theorem History.codec_roundTrips (now : Instant) : (History.codec now).RoundTrips := by
  have distinct : ([required "records" (list (Play.codec now))].map Field.name).Nodup :=
    (by decide : ["records"].Nodup)
  refine record_roundTrips distinct ?_ ofPlays_plays
  simp only [List.forall_mem_cons]
  exact ⟨required_roundTrips _ (list_roundTrips (Play.codec_roundTrips now)), nofun⟩

/-! ## Every kind -/

/-- The kinds of values that are both written and read. -/
inductive WireType
  | layer
  | layerRecord
  | settings
  | namesAnswer
  | settingsAnswer
  | whitelist
  | rules
  | plan
  | policy
  | roundStart
  | play
  | history

namespace WireType

/-- The values of a kind. -/
def Value : WireType → Type
  | layer => Layer
  | layerRecord => LayerRecord
  | settings => Remote.Settings
  | namesAnswer => Remote.Envelope (List String)
  | settingsAnswer => Remote.Envelope Remote.Settings
  | whitelist => Remote.Whitelist
  | rules => ExclusionRules
  | plan => Plan
  | policy => Policy
  | roundStart => RoundStart
  | play => Play
  | history => History

/-- How the values of a kind are written and read; `now` is the moment of a round that names none. -/
def codec (now : Instant) : (w : WireType) → Codec w.Value
  | layer => Layer.codec
  | layerRecord => LayerRecord.codec
  | settings => Remote.Settings.codec
  | namesAnswer => Remote.Envelope.codec (.list .text)
  | settingsAnswer => Remote.Envelope.codec Remote.Settings.codec
  | whitelist => Remote.Whitelist.codec
  | rules => ExclusionRules.codec
  | plan => Plan.codec
  | policy => Policy.codec
  | roundStart => RoundStart.codec
  | play => Play.codec now
  | history => History.codec now

theorem codec_roundTrips (now : Instant) : ∀ w : WireType, (w.codec now).RoundTrips
  | layer => Layer.codec_roundTrips
  | layerRecord => LayerRecord.codec_roundTrips
  | settings => Remote.Settings.codec_roundTrips
  | namesAnswer => Remote.Envelope.codec_roundTrips (list_roundTrips text_roundTrips) nofun
  | settingsAnswer => Remote.Envelope.codec_roundTrips Remote.Settings.codec_roundTrips nofun
  | whitelist => Remote.Whitelist.codec_roundTrips
  | rules => ExclusionRules.codec_roundTrips
  | plan => Plan.codec_roundTrips
  | policy => Policy.codec_roundTrips
  | roundStart => RoundStart.codec_roundTrips
  | play => Play.codec_roundTrips now
  | history => History.codec_roundTrips now

/-- What is written does not depend on the moment. -/
theorem write_codec (now now' : Instant) (w : WireType) : (w.codec now).write = (w.codec now').write := by
  -- The moment is only a default of the reader.
  have rounds : (Play.codec now).write = (Play.codec now').write := rfl
  cases w with
  | history =>
    funext (h : History)
    show Json.object [("records", .array (h.plays.map (Play.codec now).write))] = _
    rw [rounds]
    rfl
  | play => exact rounds
  | _ => rfl

/-- **Writers and readers agree.** Whatever is written of a kind is read back from its text at any moment.
So an accepted text, written anew and read again, says what it said at first. -/
theorem codecs_agree (w : WireType) (now now' : Instant) :
    (∀ v text, Printed ((w.codec now).write v) text → (w.codec now').ofText text = .ok v) ∧
    ∀ given v, (w.codec now).ofText given = .ok v →
      ∀ text, Printed ((w.codec now).write v) text →
        (w.codec now').ofText text = (w.codec now).ofText given := by
  have back (v : w.Value) (text : String) (printed : Printed ((w.codec now).write v) text) :
      (w.codec now').ofText text = .ok v :=
    (w.codec_roundTrips now').ofText (w.write_codec now now') v printed
  refine ⟨back, fun given v accepted text printed => ?_⟩
  rw [accepted]
  exact back v text printed

/-- A history whose rounds are out of order, with one of them twice, once as a sequence. -/
def shuffledText : String :=
  "\x7b\"origin\":[null,1e9],\"records\":[" ++
    "\x7b\"map\":\"foy\",\"environment\":\"day\",\"round_index\":2,\"layer_id\":null," ++
      "\"recorded_at\":\x7b\"nanos_since_epoch\":5,\"secs_since_epoch\":7\x7d\x7d," ++
    "[\"kursk\",\x7b\"rain\":null\x7d,1,\"kursk_\\u0072ain\",[6,1000000001]]," ++
    "\x7b\"map\":\"carentan\",\"environment\":\"day\",\"round_index\":2," ++
      "\"recorded_at\":[8,0]\x7d]\x7d"

/-- The history of that text is in order and has each round once, and it is read back from what is written
of it. -/
theorem codecs_agree_shuffled :
    ∃ h : History, (History.codec .epoch).ofText shuffledText = .ok h ∧
      h.plays = [⟨"kursk", .rain, 1, some "kursk_rain", { seconds := 7, nanos := 1 }⟩,
        ⟨"foy", .day, 2, none, { seconds := 7, nanos := 5 }⟩] ∧
      (History.codec .epoch).ofText (Json.printLines ((History.codec .epoch).write h)) = .ok h := by
  have read : ((History.codec .epoch).ofText shuffledText).map History.plays =
      .ok [⟨"kursk", .rain, 1, some "kursk_rain", { seconds := 7, nanos := 1 }⟩,
        ⟨"foy", .day, 2, none, { seconds := 7, nanos := 5 }⟩] := by decide +kernel
  obtain ⟨h, accepted, plays⟩ := map_eq_ok read
  have again := (codecs_agree .history .epoch .epoch).2 shuffledText h accepted _ (.inr rfl)
  exact ⟨h, accepted, plays, again.trans accepted⟩

end WireType

end MapBallot
