import MapBallot.Preview.Run
import MapBallot.Proofs.History.Normal
import MapBallot.Proofs.Remote.Dump

/-!
# `MapBallot.Proofs.Preview.HistoryFile` — the history of a preview

The history file of a preview holds a list of records, or an object around one. An object stands for a
history, so its records are put in order when it is read, and once more when the preview makes its own
history of them; a list is put in order only then. No draft is both, and putting records in order a second
time changes nothing, so the two files give one history.

## Contents

* `wrapped`, `read_wrapped` — an object around a list of records;
* `not_snapshot_and_bare` — no draft has both forms;
* `ReadsFile`, `historyOf_of_readsFile` — what the preview makes of a draft of either form;
* `keepable_of_printed` — files that were written;
* `history_normal` — normalising records, and the two files.
-/

namespace MapBallot.Preview

open Files (Reader)
open Json (Codec Draft Fault Printed Values)
open Remote.Catalog (KeepableDraft firstOf_of_first firstOf_of_found keepable_ofJson list_depth)

variable {now : Instant} {d : Draft} {ps qs : List Play}

/-- How a list of records is read and written. -/
def recordsCodec (now : Instant) : Codec (List Play) := .list (Play.codec now)

/-! ## The two forms -/

/-- An object with one field, which holds a list of records. -/
def wrapped (d : Draft) : Draft := .object [(.string (some "records"), d)] true

/-- An object around a list is read as the history of its records. -/
theorem read_wrapped (listed : (recordsCodec now).read d = .ok ps) :
    (History.codec now).read (wrapped d) = .ok (.ofPlays ps) := by
  have named : Json.isNamed "records" (.string (some "records"), d) = true := beq_self_eq_true "records"
  have given : Json.given "records" [(.string (some "records"), d)] = [d] :=
    Json.given_cons_of_named named []
  have others : Json.others "records" [(.string (some "records"), d)] = [] :=
    Json.others_cons_of_named named []
  have values : Values.read ⟨"StoredHistory", false, true⟩ [.required "records" (recordsCodec now)]
      (wrapped d) = .ok (ps, ()) := by
    refine Values.read_eq_ok_iff.2 (.inl ⟨_, rfl, ?_, ?_⟩)
    · show Json.Field.Given (.required "records" (recordsCodec now)) (Json.given "records" _) ps
      rw [given]
      exact Json.Field.given_singleton_iff.2 listed
    · show ∀ m ∈ Json.others "records" _, Json.PassedOver _ m
      rw [others]
      exact nofun
  exact congrArg (Except.map _) values

/-- A sequence that is read as a record starts with a text. -/
theorem first_of_read_play {ds : List Draft} {closed : Bool} {p : Play}
    (read : (Play.codec now).read (.array ds closed) = .ok p) :
    ∃ map rest, ds = .string (some map) :: rest := by
  obtain ⟨vs, values, _⟩ := Codec.map_eq_ok read
  rcases Values.read_eq_ok_iff.1 values with ⟨_, ⟨⟩, _⟩ | ⟨items, same, listed⟩
  obtain ⟨rfl, rfl⟩ := Draft.array.inj same
  cases ds with
  | nil => exact absurd listed.1 nofun
  | cons first rest =>
    obtain ⟨map, rfl⟩ : ∃ map, first = .string (some map) := by
      cases first with
      | string s =>
        cases s with
        | some map => exact ⟨map, rfl⟩
        | none => exact absurd listed.1 nofun
      | _ => exact absurd listed.1 nofun
    exact ⟨map, rest, rfl⟩

/-- No draft is both a record and a list of records. -/
theorem not_play_and_list {p : Play} (play : (Play.codec now).read d = .ok p)
    (listed : (recordsCodec now).read d = .ok ps) : False := by
  cases d with
  | array ds closed =>
    obtain ⟨map, rest, rfl⟩ := first_of_read_play play
    -- The first item would have to be a record, but it is a text.
    obtain ⟨_, items, _⟩ := Codec.bind_eq_ok listed
    obtain ⟨_, first, _⟩ := Codec.bind_eq_ok items
    cases first
  | _ => cases listed

/-- **No draft is both a history and a list of records.** -/
theorem not_snapshot_and_bare {h : History} (snapshot : (History.codec now).read d = .ok h)
    (listed : (recordsCodec now).read d = .ok ps) : False := by
  obtain ⟨⟨inner, _⟩, values, _⟩ := Codec.map_eq_ok snapshot
  rcases Values.read_eq_ok_iff.1 values with ⟨_, rfl, _⟩ | ⟨items, rfl, fields⟩
  · cases listed
  · -- As a history, the sequence has one item, a list of records; as a list, that item is a record.
    cases items with
    | nil => exact absurd fields.1 nofun
    | cons first rest =>
      obtain ⟨_, items, _⟩ := Codec.bind_eq_ok listed
      obtain ⟨_, play, _⟩ := Codec.bind_eq_ok items
      exact not_play_and_list play fields.1

/-! ## What the preview makes of them -/

/-- The draft is a list of records, or an object around one. -/
inductive ReadsFile (now : Instant) (ps : List Play) : Draft → Prop
  | bare {d : Draft} (listed : (recordsCodec now).read d = .ok ps) : ReadsFile now ps d
  | wrapped {d : Draft} (listed : (recordsCodec now).read d = .ok ps) : ReadsFile now ps (wrapped d)

/-- The first form that fits gives records with the same history; those of an object are in order already. -/
theorem readFile_of_readsFile (file : ReadsFile now ps d) :
    ∃ plays, History.ofPlays plays = .ofPlays ps ∧
      History.readFile now d = if KeepableDraft d then .ok plays else .error .malformed := by
  cases file with
  | bare listed =>
    refine ⟨ps, rfl, firstOf_of_found ?_ "HistoryFile"⟩
    have unfit : (((History.codec now).read d).map History.plays).toOption = none := by
      cases snapshot : (History.codec now).read d with
      | error fault => rfl
      | ok h => exact (not_snapshot_and_bare snapshot listed).elim
    have fits : ((Codec.list (Play.codec now)).read d).toOption = some ps := congrArg Except.toOption listed
    rw [List.findSome?_cons, unfit, List.findSome?_cons, fits]
  | wrapped listed =>
    refine ⟨(History.ofPlays ps).plays, History.ofPlays_plays _, firstOf_of_first ?_ "HistoryFile"⟩
    rw [read_wrapped listed]
    rfl

/-- Why there is no preview after a file that is nested too deep. -/
def unreadable (path : String) : Failure :=
  ⟨"Failed to parse history at " ++ path, [faultCause .malformed]⟩

/-- **Both forms give the history of the records**, unless the file cannot be kept until its form is
known. -/
theorem historyOf_of_readsFile {read : Reader} {a : Arguments} {path text : String}
    (asked : a.history = some path) (held : read path = .ok text) (whole : Draft.ofText text = (d, true))
    (file : ReadsFile now ps d) :
    historyOf read now a =
      if KeepableDraft d then .ok (.ofRecent ps (max a.retention 1)) else .error (unreadable path) := by
  have plain : Codec.readText (History.readFile now) text = History.readFile now d := by
    unfold Codec.readText
    rw [whole]
    dsimp only
    cases History.readFile now d <;> rfl
  have opened : historyOf read now a =
      (parseInput "history" path (History.readFile now d)).bind
        fun plays => .ok (.ofRecent plays (max a.retention 1)) := by
    unfold historyOf readInput
    rw [asked]
    dsimp only
    rw [held, ← plain]
    rfl
  obtain ⟨plays, same, read⟩ := readFile_of_readsFile file
  have history : History.ofRecent plays (max a.retention 1) = .ofRecent ps (max a.retention 1) :=
    congrArg (·.truncated (max a.retention 1)) same
  rw [opened, read, ← history]
  split_ifs <;> rfl

/-! ## Files that were written -/

theorem recordsCodec_roundTrips (now : Instant) : (recordsCodec now).RoundTrips :=
  Json.Codec.list_roundTrips (Play.codec_roundTrips now)

theorem play_depth (p : Play) : (Draft.ofJson ((Play.codec now).write p)).depth = 2 := by
  obtain ⟨map, environment, roundIndex, _ | layerId, recordedAt⟩ := p <;> rfl

/-- The two files of some records, as they are written. -/
def writtenFiles (now : Instant) (ps : List Play) : List Json :=
  [(recordsCodec now).write ps, .object [("records", (recordsCodec now).write ps)]]

/-- A file that was written is of one of the two forms, and it can be kept. -/
theorem readsFile_of_printed {j : Json} {text : String} (written : j ∈ writtenFiles now ps)
    (printed : Printed j text) :
    Draft.ofText text = (.ofJson j, true) ∧ KeepableDraft (.ofJson j) ∧ ReadsFile now ps (.ofJson j) := by
  have trips := recordsCodec_roundTrips now
  have shallow : (Draft.ofJson ((recordsCodec now).write ps)).depth ≤ 3 :=
    list_depth (fun p => Nat.le_of_eq (play_depth p)) ps
  simp only [writtenFiles, List.mem_cons, List.not_mem_nil, or_false] at written
  rcases written with rfl | rfl
  · refine ⟨Json.ofText_printed (trips.exact ps) printed, ?_, .bare (trips.faithful ps)⟩
    exact keepable_ofJson (Nat.le_trans shallow (by decide))
  · have exact : (Json.object [("records", (recordsCodec now).write ps)]).Exact := ⟨trips.exact ps, trivial⟩
    refine ⟨Json.ofText_printed exact printed, keepable_ofJson ?_, .wrapped (trips.faithful ps)⟩
    show max _ 0 + 1 ≤ Codec.maxFormDepth
    rw [Nat.max_zero]
    exact Nat.le_trans (Nat.succ_le_succ shallow) (by decide)

/-! ## The normal form -/

/-- **Making a history of records is a normal form.** Of any records, in any order, the newest rounds are
kept, as many as may be, each with its first record. Making a history of what was kept keeps less of it and
changes nothing else, and the order of the records matters for those of one round alone. So the preview
makes one history of some records whether its file holds a list of them or an object around that list,
however these are spelt, unless the file cannot be kept until its form is known; a file that was written
can be kept. -/
theorem history_normal (ps : List Play) :
    (∀ m, History.Kept ps m (.ofRecent ps m)) ∧
    (∀ m n, History.ofRecent (History.ofRecent ps m).plays n = .ofRecent ps (min m n)) ∧
    (∀ ps' m, History.Reordered ps ps' → History.ofRecent ps' m = .ofRecent ps m) ∧
    ∀ (read : Reader) (now : Instant) (a : Arguments) (path text : String),
      a.history = some path → read path = .ok text →
        (∀ j ∈ writtenFiles now ps, Printed j text →
          historyOf read now a = .ok (.ofRecent ps (max a.retention 1))) ∧
        ∀ d, Draft.ofText text = (d, true) → ReadsFile now ps d →
          historyOf read now a =
            if KeepableDraft d then .ok (.ofRecent ps (max a.retention 1)) else .error (unreadable path) := by
  refine ⟨History.kept_ofRecent ps, History.ofRecent_ofRecent ps,
    fun ps' m reordered => History.ofRecent_reordered reordered m, ?_⟩
  intro read now a path text asked held
  refine ⟨?_, fun d whole file => historyOf_of_readsFile asked held whole file⟩
  intro j written printed
  obtain ⟨whole, keepable, file⟩ := readsFile_of_printed written printed
  rw [historyOf_of_readsFile asked held whole file, if_pos keepable]

/-- Three records of two rounds, and the same in another order. -/
def shuffledPlays : List Play :=
  [⟨"foy", .day, 2, none, .epoch⟩, ⟨"kursk", .rain, 1, some "kursk_rain", .epoch⟩,
    ⟨"carentan", .night, 2, none, .epoch⟩]

def orderedPlays : List Play :=
  [⟨"kursk", .rain, 1, some "kursk_rain", .epoch⟩, ⟨"foy", .day, 2, none, .epoch⟩,
    ⟨"carentan", .night, 2, none, .epoch⟩]

/-- A preview that asks for the history in a file. -/
def askingFor (path : String) : Arguments := { history := some path, retention := 0 }

/-- The order of those records does not matter, and both files give the newest of them. -/
theorem history_normal_shuffled :
    (∀ m, History.ofRecent shuffledPlays m = .ofRecent orderedPlays m) ∧
      (History.ofRecent orderedPlays 1).plays = [⟨"foy", .day, 2, none, .epoch⟩] ∧
      ∀ j ∈ writtenFiles .epoch orderedPlays,
        historyOf (fun _ => .ok j.print) .epoch (askingFor "h.json") = .ok (.ofRecent orderedPlays 1) := by
  obtain ⟨_, _, reordered, files⟩ := history_normal orderedPlays
  refine ⟨fun m => reordered shuffledPlays m ⟨by decide, by decide⟩, by decide, ?_⟩
  intro j written
  obtain ⟨fromWritten, _⟩ :=
    files (fun _ => .ok j.print) .epoch (askingFor "h.json") "h.json" j.print rfl rfl
  exact fromWritten j written (.inl rfl)

end MapBallot.Preview
