import MapBallot.Proofs.Remote.Answer
import MapBallot.Proofs.Wire

/-!
# `MapBallot.Proofs.Remote.Dump` — the readers of catalog dumps

A catalog is read in three ways: from a list of layer descriptions, from an envelope around one, and
as the answer of the remote tool. A dump is one of the first two, and which of them is found out by trying;
no draft is both, so the order of trying does not matter. Before any form is tried, though, the whole dump
is kept, which takes that its texts and numbers have values and that it is not nested too deep. The answer of
the remote tool has one form and is not kept, so what it passes over may be anything that is not cut off.

## Contents

* `Keepable` — dumps that can be kept until their form is known;
* `isWhole_ofJson` — documents are not cut off;
* `not_envelope_and_bare` — no draft has both forms;
* `firstOf_swap` — the order in which the forms are tried;
* `read_of_envelope`, `read_of_bare` — what a dump of either form gives;
* `keepable_of_printed` — lists that were written can be kept;
* `readers_agree` — all readers give the same layers;
* `extra_field_refused` — an extra field that one reader passes over and another refuses.
-/

namespace MapBallot.Remote.Catalog

open Json (Codec Draft Fault Printed)

variable {α : Type}

/-- The draft can be kept until its form is known. -/
def KeepableDraft (d : Draft) : Prop := d.isSound = true ∧ d.depth ≤ Codec.maxFormDepth

/-- The dump that a text holds can be kept until its form is known. -/
def Keepable (text : String) : Prop := KeepableDraft (Draft.ofText text).1

instance (d : Draft) : Decidable (KeepableDraft d) := inferInstanceAs (Decidable (_ ∧ _))

instance (text : String) : Decidable (Keepable text) := inferInstanceAs (Decidable (KeepableDraft _))

mutual

/-- The draft of a document is not cut off. -/
theorem isWhole_ofJson : ∀ j : Json, (Draft.ofJson j).isWhole = true
  | .null | .bool _ | .number _ | .string _ => rfl
  | .array js => itemsWhole_ofItems js
  | .object ms => membersWhole_ofMembers ms

theorem itemsWhole_ofItems : ∀ js : List Json, Draft.itemsWhole (Draft.ofItems js) = true
  | [] => rfl
  | j :: js => Bool.and_eq_true_iff.2 ⟨isWhole_ofJson j, itemsWhole_ofItems js⟩

theorem membersWhole_ofMembers : ∀ ms : List (String × Json), Draft.membersWhole (Draft.ofMembers ms) = true
  | [] => rfl
  | (_, j) :: ms => Bool.and_eq_true_iff.2 ⟨isWhole_ofJson j, membersWhole_ofMembers ms⟩

end

/-! ## The two forms -/

/-- An envelope is an object, or a sequence that starts with a text. -/
theorem form_of_readEnvelope {d : Draft} {rs : List LayerRecord} (read : readEnvelope d = .ok rs) :
    (∃ ms, d = .object ms true) ∨ ∃ command ds, d = .array (.string (some command) :: ds) true := by
  obtain ⟨e, read, _⟩ := Codec.map_eq_ok read
  obtain ⟨result, told, _⟩ := Envelope.read_eq_ok_iff.1 read
  cases told with
  | object => exact .inl ⟨_, rfl⟩
  | sequence => exact .inr ⟨_, _, rfl⟩

/-- No layer description is a text. -/
theorem layerRecord_read_string (s : Option String) : ∃ fault, LayerRecord.codec.read (.string s) = .error fault :=
  ⟨_, rfl⟩

/-- **No draft is both an envelope and a list of layer descriptions.** -/
theorem not_envelope_and_bare {d : Draft} {rs rs' : List LayerRecord} (envelope : readEnvelope d = .ok rs)
    (bare : readBare d = .ok rs') : False := by
  rcases form_of_readEnvelope envelope with ⟨ms, rfl⟩ | ⟨command, ds, rfl⟩
  · cases bare
  · -- The first item would have to be a layer description.
    obtain ⟨fault, refused⟩ := layerRecord_read_string (some command)
    obtain ⟨_, items, _⟩ := Codec.bind_eq_ok bare
    obtain ⟨_, first, _⟩ := Codec.bind_eq_ok items
    exact absurd (refused.symm.trans first) nofun

/-- **The order in which the forms are tried does not matter.** -/
theorem firstOf_swap (name : String) (d : Draft) :
    Codec.firstOf name [readEnvelope, readBare] d = Codec.firstOf name [readBare, readEnvelope] d := by
  unfold Codec.firstOf
  simp only [List.findSome?_cons, List.findSome?_nil]
  cases envelope : readEnvelope d with
  | error e => cases readBare d <;> rfl
  | ok rs =>
    cases bare : readBare d with
    | error e => rfl
    | ok rs' => exact (not_envelope_and_bare envelope bare).elim

/-- The first form that fits is the one that counts. -/
theorem firstOf_of_found {forms : List (Draft → Except Fault α)} {d : Draft} {a : α}
    (found : (forms.findSome? fun form => (form d).toOption) = some a) (name : String) :
    Codec.firstOf name forms d = if KeepableDraft d then .ok a else .error .malformed := by
  have guard : (d.isSound && decide (d.depth ≤ Codec.maxFormDepth)) = true ↔ KeepableDraft d := by
    rw [Bool.and_eq_true, decide_eq_true_eq]
    rfl
  unfold Codec.firstOf
  simp only [guard, found]

theorem firstOf_of_first {form form' : Draft → Except Fault α} {d : Draft} {a : α}
    (fits : form d = .ok a) (name : String) :
    Codec.firstOf name [form, form'] d = if KeepableDraft d then .ok a else .error .malformed :=
  firstOf_of_found (by rw [List.findSome?_cons, fits]; rfl) name

theorem read_of_envelope {d : Draft} {rs : List LayerRecord} (envelope : readEnvelope d = .ok rs) :
    read d = if KeepableDraft d then .ok (rs.map LayerRecord.layer) else .error .malformed := by
  rw [read, firstOf_of_first envelope]
  split_ifs <;> rfl

theorem read_of_bare {d : Draft} {rs : List LayerRecord} (bare : readBare d = .ok rs) :
    read d = if KeepableDraft d then .ok (rs.map LayerRecord.layer) else .error .malformed := by
  rw [read, firstOf_swap, firstOf_of_first bare]
  split_ifs <;> rfl

/-- A text that holds a whole draft gives what the draft gives. -/
theorem ofText_of_whole {text : String} {d : Draft} (whole : Draft.ofText text = (d, true)) :
    ofText text = read d := by
  unfold ofText Codec.readText
  rw [whole]
  dsimp only
  cases read d <;> rfl

section

variable {wrapped : String} {e : Envelope Draft} {rs : List LayerRecord}

/-- The answer of the remote tool gives the layers of an envelope without a failure. -/
theorem interpret_of_wrapped (held : Envelope.InText wrapped e) (unfailed : e.failed = false)
    (rel : ReadsAs (Codec.list LayerRecord.codec) e.result (some rs)) :
    Call.catalog.interpret (.answered 200 wrapped) = .ok (rs.map LayerRecord.layer) := by
  have answered : Call.catalog.interpret (.answered 200 wrapped) = _ :=
    Call.interpret_of_inText rfl held rel
  rwa [if_neg (by simp [unfailed])] at answered

/-- A dump that is an envelope gives its layers if it can be kept. -/
theorem ofText_of_wrapped (held : Envelope.InText wrapped e)
    (rel : ReadsAs (Codec.list LayerRecord.codec) e.result (some rs)) :
    ofText wrapped = if Keepable wrapped then .ok (rs.map LayerRecord.layer) else .error .malformed := by
  obtain ⟨d, whole, told⟩ := held
  have read := Envelope.read_eq_ok_iff (e := ⟨e.command, e.failed, e.error, e.version, some rs⟩).2
    ⟨e.result, told, rel⟩
  have envelope : readEnvelope d = .ok rs := by
    rw [readEnvelope, read]
    rfl
  rw [ofText_of_whole whole, read_of_envelope envelope]
  simp only [Keepable, whole]

end

/-! ## Lists that were written -/

theorem layerRecord_depth (r : LayerRecord) : (Draft.ofJson (LayerRecord.codec.write r)).depth = 2 := by
  obtain ⟨id, ⟨_, _ | _, _ | _⟩, gameMode, _ | attackers, environment, _ | prettyName⟩ := r <;> rfl

/-- A list is nested one deeper than its items. -/
theorem list_depth {c : Codec α} {n : Nat} (each : ∀ a, (Draft.ofJson (c.write a)).depth ≤ n) (as : List α) :
    (Draft.ofJson ((Codec.list c).write as)).depth ≤ n + 1 := by
  refine Nat.succ_le_succ ?_
  show Draft.itemsDepth (Draft.ofItems (as.map c.write)) ≤ n
  induction as with
  | nil => exact Nat.zero_le n
  | cons a as ih =>
    rw [List.map_cons, Draft.ofItems, Draft.itemsDepth]
    exact Nat.max_le.2 ⟨each a, ih⟩

/-- A document can be kept if it is not nested too deep. -/
theorem keepable_ofJson {j : Json} (shallow : (Draft.ofJson j).depth ≤ Codec.maxFormDepth) :
    KeepableDraft (.ofJson j) := by
  refine ⟨?_, shallow⟩
  rw [Draft.isSound, Draft.toJson?_ofJson]
  rfl

/-- A list that was written can be kept. -/
theorem keepable_of_printed {rs : List LayerRecord} {text : String}
    (printed : Printed ((Codec.list LayerRecord.codec).write rs) text) :
    Keepable text ∧ ∃ d, Draft.ofText text = (d, true) ∧ readBare d = .ok rs := by
  have trips := Codec.list_roundTrips LayerRecord.codec_roundTrips
  have whole := Json.ofText_printed (trips.exact rs) printed
  refine ⟨?_, _, whole, trips.faithful rs⟩
  have shallow : (Draft.ofJson ((Codec.list LayerRecord.codec).write rs)).depth ≤ 3 :=
    list_depth (fun r => Nat.le_of_eq (layerRecord_depth r)) rs
  rw [Keepable, whole]
  exact keepable_ofJson (Nat.le_trans shallow (by decide))

/-! ## All readers -/

/-- **All readers of a catalog agree.** Take any list of layer descriptions, as it stands alone and as the
result of an envelope that reports no failure, whatever else that envelope says. The answer of the remote
tool gives its layers, and so does a dump of either form, unless it cannot be kept; then it is refused. A
list that was written can be kept. No draft has both forms, and the order in which they are tried does not
matter. -/
theorem readers_agree :
    (∀ (bare wrapped : String) (d : Draft) (rs : List LayerRecord) (e : Envelope Draft),
      Draft.ofText bare = (d, true) → readBare d = .ok rs →
      Envelope.InText wrapped e → e.failed = false → e.result = some d →
        Call.catalog.interpret (.answered 200 wrapped) = .ok (rs.map LayerRecord.layer) ∧
        ofText wrapped = (if Keepable wrapped then .ok (rs.map LayerRecord.layer) else .error .malformed) ∧
        ofText bare = if Keepable bare then .ok (rs.map LayerRecord.layer) else .error .malformed) ∧
    (∀ (rs : List LayerRecord) (bare : String),
      Printed ((Codec.list LayerRecord.codec).write rs) bare →
        Keepable bare ∧ ∃ d, Draft.ofText bare = (d, true) ∧ readBare d = .ok rs) ∧
    (∀ d rs rs', readEnvelope d = .ok rs → readBare d = .ok rs' → False) ∧
    ∀ name d, Codec.firstOf name [readEnvelope, readBare] d = Codec.firstOf name [readBare, readEnvelope] d := by
  refine ⟨?_, fun rs bare => keepable_of_printed, fun d rs rs' => not_envelope_and_bare, firstOf_swap⟩
  intro bare wrapped d rs e plain listed held unfailed result
  have rel : ReadsAs (Codec.list LayerRecord.codec) e.result (some rs) := by
    rw [result]
    exact .some listed
  refine ⟨interpret_of_wrapped held unfailed rel, ofText_of_wrapped held rel, ?_⟩
  rw [ofText_of_whole plain, read_of_bare listed]
  simp only [Keepable, plain]

/-- The written list of some layers. -/
def listOf (rs : List LayerRecord) : Json := (Codec.list LayerRecord.codec).write rs

/-- An envelope around that list, with an extra field. -/
def dumpOf (rs : List LayerRecord) (extra : Json) : Json :=
  .object [("command", .string "get_maps"), ("failed", .bool false), ("took", extra), ("result", listOf rs)]

theorem exact_listOf (rs : List LayerRecord) : (listOf rs).Exact :=
  (Codec.list_roundTrips LayerRecord.codec_roundTrips).exact rs

theorem ofText_dumpOf (rs : List LayerRecord) {extra : Json} (exact : extra.Exact) :
    Draft.ofText (dumpOf rs extra).print = (.ofJson (dumpOf rs extra), true) :=
  Json.ofText_printed (j := dumpOf rs extra) ⟨trivial, trivial, exact, exact_listOf rs, trivial⟩ (.inl rfl)

/-- The extra field is passed over, whatever it holds. -/
theorem inText_dumpOf (rs : List LayerRecord) {extra : Json} (exact : extra.Exact) :
    Envelope.InText (dumpOf rs extra).print
      ⟨"get_maps", false, none, none, some (.ofJson (listOf rs))⟩ := by
  refine ⟨_, ofText_dumpOf rs exact, ?_⟩
  rw [dumpOf, Draft.ofJson_object]
  refine .object rfl rfl .absent .absent (.result nofun) fun m mem _ => ?_
  obtain ⟨⟨name, j⟩, _, rfl⟩ := List.mem_map.1 mem
  exact ⟨rfl, ⟨name, rfl⟩, isWhole_ofJson j⟩

/-- A layer of a catalog. -/
def foyRecord : LayerRecord := ⟨"foy_warfare", ⟨"foy", none, none⟩, .warfare, none, .day, none⟩

/-- A layer that says all there is to say. -/
def kurskRecord : LayerRecord where
  id := "kursk_offensive_ger_night"
  map := ⟨"kursk", some "Kursk", some "KUR"⟩
  gameMode := .offensive
  attackers := some .axis
  environment := .night
  prettyName := some "Kursk Offensive \"Night\""

/-- A catalog that lists a layer twice. -/
def catalogRecords : List LayerRecord := [foyRecord, kurskRecord, foyRecord]

/-- The readers agree on an envelope around that list, and on the list alone, which can both be kept. -/
theorem readers_agree_foy :
    Call.catalog.interpret (.answered 200 (dumpOf catalogRecords (.array [.null])).print) =
        .ok [foyRecord.layer, kurskRecord.layer, foyRecord.layer] ∧
      ofText (dumpOf catalogRecords (.array [.null])).print =
        .ok [foyRecord.layer, kurskRecord.layer, foyRecord.layer] ∧
      ofText (listOf catalogRecords).print = .ok [foyRecord.layer, kurskRecord.layer, foyRecord.layer] := by
  have exact : (Json.array [.null]).Exact := ⟨trivial, trivial⟩
  obtain ⟨listed, d, plain, bare⟩ :=
    readers_agree.2.1 catalogRecords (listOf catalogRecords).print (.inl rfl)
  obtain rfl : d = .ofJson (listOf catalogRecords) :=
    congrArg Prod.fst (plain.symm.trans (Json.ofText_printed (exact_listOf _) (.inl rfl)))
  obtain ⟨answered, dumped, alone⟩ :=
    readers_agree.1 _ _ _ _ _ plain bare (inText_dumpOf catalogRecords exact) rfl rfl
  have keepable : Keepable (dumpOf catalogRecords (.array [.null])).print := by
    rw [Keepable, ofText_dumpOf catalogRecords exact]
    exact keepable_ofJson (by decide)
  rw [if_pos keepable] at dumped
  rw [if_pos listed] at alone
  exact ⟨answered, dumped, alone⟩

/-- Brackets within brackets. -/
def nested : Nat → Json
  | 0 => .array []
  | n + 1 => .array [nested n]

theorem exact_nested : ∀ n, (nested n).Exact
  | 0 => trivial
  | n + 1 => ⟨exact_nested n, trivial⟩

theorem depth_nested : ∀ n, (Draft.ofJson (nested n)).depth = n + 1
  | 0 => rfl
  | n + 1 => congrArg (max · 0 + 1) (depth_nested n)

/-- Brackets that leave no room for what is around them. -/
theorem not_keepable_nested (rs : List LayerRecord) : ¬ Keepable (dumpOf rs (nested 126)).print := by
  rw [Keepable, ofText_dumpOf rs (exact_nested 126)]
  rintro ⟨_, shallow⟩
  have inner : (Draft.ofJson (nested 126)).depth < (Draft.ofJson (dumpOf rs (nested 126))).depth := by
    show _ < max _ (max _ (max _ _)) + 1
    omega
  rw [depth_nested] at inner
  exact absurd (Nat.lt_of_lt_of_le inner shallow) (by decide)

/-- **The readers do not agree on every envelope.** The answer of the remote tool passes over an extra
field that is nested too deep for the reader of dumps. -/
theorem extra_field_refused :
    Call.catalog.interpret (.answered 200 (dumpOf [foyRecord] (nested 126)).print) =
        .ok [foyRecord.layer] ∧
      ofText (dumpOf [foyRecord] (nested 126)).print = .error .malformed := by
  have held := inText_dumpOf [foyRecord] (exact_nested 126)
  have rel : ReadsAs (Codec.list LayerRecord.codec) (some (.ofJson (listOf [foyRecord])))
      (some [foyRecord]) := .some rfl
  refine ⟨interpret_of_wrapped held rfl rel, ?_⟩
  rw [ofText_of_wrapped held rel, if_neg (not_keepable_nested [foyRecord])]

end MapBallot.Remote.Catalog
