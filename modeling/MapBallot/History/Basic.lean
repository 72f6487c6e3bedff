import MapBallot.Ascending
import MapBallot.History.Record

/-!
# `MapBallot.History.Basic` — the play history

The play history holds the last rounds, oldest first, each round index once. It tells how many
rounds ago something was played.

## Contents

* `History`, `History.ofPlays`, `History.truncated`, `History.codec`;
* `Recency`, `History.recencyWhere`, `History.recencyOfMap`.
-/

namespace MapBallot

open Json (Codec)

/-- A round comes before another by its index alone. -/
def Play.before (p q : Play) : Bool := p.roundIndex < q.roundIndex

theorem Play.before_trans (p q r : Play) (h : p.before q) (h' : q.before r) : p.before r := by
  simp only [Play.before, decide_eq_true_eq, UInt64.lt_iff_toNat_lt] at *
  omega

/-- Played rounds, oldest first. -/
structure History where
  plays : List Play
  /-- Round indices strictly increase. -/
  ascending : plays.Pairwise fun p q => p.before q

/-- How many rounds ago something was played. -/
inductive Recency
  | rounds (n : Nat)
  | never
  deriving DecidableEq, Repr

namespace History

instance : Inhabited History := ⟨⟨[], .nil⟩⟩

/-- The history in which nothing was played. -/
def empty : History := ⟨[], .nil⟩

/-- The newest `retention` rounds. -/
def truncated (h : History) (retention : Nat) : History where
  plays := h.plays.drop (h.plays.length - retention)
  ascending := h.ascending.sublist (List.drop_sublist _ _)

/-- All given rounds in order of their indices; of several records of one round the first counts. -/
def ofPlays (plays : List Play) : History :=
  ⟨Ascending.arrange Play.before plays, Ascending.pairwise_arrange Play.before_trans plays⟩

/-- The newest `retention` of the given rounds. -/
def ofRecent (plays : List Play) (retention : Nat) : History :=
  (ofPlays plays).truncated retention

/-- The number of rounds. -/
def size (h : History) : Nat := h.plays.length

/-- The newest round. -/
def latest? (h : History) : Option Play := h.plays.getLast?

/-- The index of the newest round. -/
def latestIndex? (h : History) : Option UInt64 := h.latest?.map (·.roundIndex)

/-- How many rounds before the newest one the last round was that `p` selects. -/
def recencyWhere (h : History) (p : Play → Bool) : Recency :=
  match h.latest?, h.plays.reverse.find? p with
  | some latest, some play => .rounds (latest.roundIndex.toNat - play.roundIndex.toNat)
  | _, _ => .never

/-- How many rounds ago a map was played. -/
def recencyOfMap (h : History) (map : String) : Recency := h.recencyWhere (·.map == map)

/-- Histories are records of one field. Documents may list their rounds in any order; `now` is the
moment of a round that names none. -/
def codec (now : Instant) : Codec History :=
  .record ⟨"StoredHistory", false, true⟩ [.required "records" (.list (Play.codec now))]
    (fun (plays, ()) => ofPlays plays) (fun h => (h.plays, ()))

/-- A history file holds a history, or just its rounds. -/
def readFile (now : Instant) (d : Json.Draft) : Except Json.Fault (List Play) :=
  Codec.firstOf "HistoryFile"
    [fun d => ((codec now).read d).map History.plays, (Codec.list (Play.codec now)).read] d

end History

end MapBallot
