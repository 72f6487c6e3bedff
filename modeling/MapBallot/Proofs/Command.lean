import MapBallot.Command
import MapBallot.Proofs.Json.Codec
import MapBallot.Proofs.Text.AnyCase
import MapBallot.Proofs.Text.Unsigned

/-!
# `MapBallot.Proofs.Command` — the grammar of the lines that operators type

A command can be typed in many ways: with any blanks around its words, its verb under any of its spellings
and in any case, as is its environment, and its round index with a plus sign and zeros in front. The reader
accepts just these lines, apart from words that it passes over; of every other line it reports the first
flaw. Whether all arguments of a round start are there comes before what is wrong with any of them.

## Contents

* `Verb`, `Verb.Spelt`, `ofWords_of_spelt`, `ofWords_of_unknown` — the verb decides what is read;
* `identifier_eq_error_iff`, `environment_eq_ok_iff`, `roundIndex_eq_ok_iff` and their like — the arguments;
* `Typed`, `Valid`, `Passes` — the ways to type a command; `ofWords_eq_ok_iff`;
* `Flaw`, `IsFirst`, `ofWords_eq_error_iff` — what may be wrong with a line, in order;
* `parse_grammar` — which lines are accepted, and what is reported of the others.
-/

namespace MapBallot

open Json.Codec (bind_eq_ok map_eq_ok)
open Text (IsWord Numeral Refused Spaced WordsOf parseUnsigned_eq_error_iff parseUnsigned_eq_ok_iff
  splitWords splitWords_eq_iff)

namespace Command

/-! ## Verbs -/

/-- What a line can ask for, without its arguments. -/
inductive Verb
  | roundStart
  | preview
  | reload
  | status
  | shutdown
  deriving DecidableEq, Repr

namespace Verb

/-- The words for it. -/
def spellings : Verb → List String
  | roundStart => ["round_start", "round"]
  | preview => ["preview"]
  | reload => ["reload"]
  | status => ["status"]
  | shutdown => ["shutdown", "quit"]

/-- A way to type one of the words for it. -/
def Spelt (v : Verb) (typed : String) : Prop := ∃ spelling ∈ v.spellings, InAnyCase typed spelling

theorem spelt_iff {v : Verb} {typed : String} : v.Spelt typed ↔ asciiLower typed ∈ v.spellings := by
  have lower : ∀ spelling ∈ v.spellings, spelling.toList.all (! ·.isUpper) = true := by
    cases v <;> decide
  constructor
  · rintro ⟨spelling, listed, typed⟩
    rwa [(asciiLower_eq_iff (lower spelling listed)).2 typed]
  · intro listed
    exact ⟨_, listed, (asciiLower_eq_iff (lower _ listed)).1 rfl⟩

/-- No word stands for two verbs. -/
theorem Spelt.unique {v v' : Verb} {typed : String} (h : v.Spelt typed) (h' : v'.Spelt typed) : v = v' := by
  have apart : ∀ spelling ∈ v.spellings, spelling ∈ v'.spellings → v = v' := by
    cases v <;> cases v' <;> decide
  exact apart _ (spelt_iff.1 h) (spelt_iff.1 h')

theorem Spelt.isWord {v : Verb} {typed : String} (h : v.Spelt typed) : IsWord typed.toList := by
  obtain ⟨spelling, listed, typed⟩ := h
  have named : ∀ spelling ∈ v.spellings, isIdentifier spelling = true := by
    cases v <;> decide
  exact isWord_of_inAnyCase typed (named spelling listed)

/-- What is made of the arguments of a verb. -/
def read : Verb → List String → Except CommandError Command
  | roundStart, arguments => roundStartOf arguments
  | preview, _ => .ok .preview
  | reload, _ => .ok .reload
  | status, _ => .ok .status
  | shutdown, _ => .ok .shutdown

end Verb

/-- The verb of a command. -/
def verb : Command → Verb
  | roundStart .. => .roundStart
  | preview => .preview
  | reload => .reload
  | status => .status
  | shutdown => .shutdown

variable {typed : String} {arguments : List String} {e : CommandError}

theorem ofWords_of_spelt {v : Verb} (spelt : v.Spelt typed) :
    ofWords (typed :: arguments) = v.read arguments := by
  rw [Verb.spelt_iff] at spelt
  unfold ofWords
  dsimp only
  cases v <;> simp only [Verb.spellings, List.mem_cons, List.not_mem_nil, or_false] at spelt
  case roundStart | shutdown => rcases spelt with same | same <;> rw [same] <;> rfl
  all_goals
    rw [spelt]
    rfl

theorem ofWords_of_unknown (unknown : ∀ v : Verb, ¬ v.Spelt typed) :
    ofWords (typed :: arguments) = .error (.unknownCommand (asciiLower typed)) := by
  simp only [Verb.spelt_iff] at unknown
  -- Each word that the reader knows is a spelling of a verb.
  have apart (v : Verb) : ∀ spelling ∈ v.spellings, asciiLower typed ≠ spelling :=
    fun spelling listed same => unknown v (same ▸ listed)
  unfold ofWords
  dsimp only
  split
  · next same => exact absurd same (apart .roundStart _ (by decide))
  · next same => exact absurd same (apart .roundStart _ (by decide))
  · next same => exact absurd same (apart .preview _ (by decide))
  · next same => exact absurd same (apart .reload _ (by decide))
  · next same => exact absurd same (apart .status _ (by decide))
  · next same => exact absurd same (apart .shutdown _ (by decide))
  · next same => exact absurd same (apart .shutdown _ (by decide))
  · rfl

/-! ## Arguments -/

section

variable {s : String}

theorem identifier_eq_ok_iff {a : String} : identifier s = .ok a ↔ isIdentifier s = true ∧ a = s := by
  unfold identifier
  cases isIdentifier s <;> simp [eq_comm]

theorem identifier_eq_error_iff :
    identifier s = .error e ↔ isIdentifier s = false ∧ e = .invalidIdentifier s := by
  unfold identifier
  cases isIdentifier s <;> simp [eq_comm]

theorem environment_eq_ok_iff {a : Environment} : environment s = .ok a ↔ InAnyCase s a.name := by
  rw [← Environment.parse_eq_ok_iff]
  unfold environment
  cases Environment.parse s <;> simp

theorem environment_eq_error_iff :
    environment s = .error e ↔ (∀ a : Environment, ¬ InAnyCase s a.name) ∧ e = .invalidEnvironment s := by
  simp only [← Environment.parse_eq_ok_iff]
  unfold environment
  cases Environment.parse s <;> simp [eq_comm]

theorem roundIndex_eq_ok_iff {i : UInt64} : roundIndex s = .ok i ↔ Numeral i.toNat s.toList := by
  have room : 0 < UInt64.size := by decide
  have below := parseUnsigned_eq_ok_iff (s := s) (n := i.toNat) room
  rw [and_iff_right i.toNat_lt] at below
  rw [← below]
  unfold roundIndex
  cases parsed : Text.parseUnsigned UInt64.size s with
  | error fault => simp
  | ok n =>
    have fits := ((parseUnsigned_eq_ok_iff room).1 parsed).1
    simp only [Except.ok.injEq, ← UInt64.toNat_inj]
    rw [Nat.toUInt64, UInt64.toNat_ofNat', Nat.mod_eq_of_lt fits]

theorem roundIndex_eq_error_iff :
    roundIndex s = .error e ↔
      ∃ fault, Refused UInt64.size s.toList fault ∧ e = .invalidInteger s "round index" fault := by
  have room : 0 < UInt64.size := by decide
  simp only [← parseUnsigned_eq_error_iff room]
  unfold roundIndex
  cases Text.parseUnsigned UInt64.size s <;> simp [eq_comm]

theorem layer_eq_ok_iff {given read : Option String} :
    given.mapM identifier = .ok read ↔ (∀ s ∈ given, isIdentifier s = true) ∧ read = given := by
  cases given with
  | none =>
    show Except.ok none = Except.ok read ↔ _
    rw [Except.ok.injEq]
    exact ⟨fun same => ⟨nofun, same.symm⟩, fun h => h.2.symm⟩
  | some s =>
    show (identifier s).map some = .ok read ↔ _
    constructor
    · intro h
      obtain ⟨a, readName, rfl⟩ := map_eq_ok h
      obtain ⟨named, rfl⟩ := identifier_eq_ok_iff.1 readName
      exact ⟨by simpa using named, rfl⟩
    · rintro ⟨named, rfl⟩
      rw [identifier_eq_ok_iff.2 ⟨named s rfl, rfl⟩]
      rfl

theorem layer_eq_error_iff {given : Option String} :
    given.mapM identifier = .error e ↔ ∃ s ∈ given, isIdentifier s = false ∧ e = .invalidIdentifier s := by
  cases given with
  | none =>
    show Except.ok none = Except.error e ↔ _
    exact iff_of_false nofun nofun
  | some s =>
    show (identifier s).map some = .error e ↔ _
    constructor
    · intro h
      cases readName : identifier s with
      | ok a =>
        rw [readName] at h
        cases h
      | error e' =>
        rw [readName] at h
        obtain rfl := Except.error.inj h
        exact ⟨s, rfl, identifier_eq_error_iff.1 readName⟩
    · rintro ⟨_, ⟨⟩, refused⟩
      rw [identifier_eq_error_iff.2 refused]
      rfl

/-- The arguments of a round start, all of which are there. -/
theorem roundStartOf_eq_ok_iff {map environmentText indexText : String} {rest : List String}
    {command : Command} :
    roundStartOf (map :: environmentText :: indexText :: rest) = .ok command ↔
      ∃ environment index, isIdentifier map = true ∧ InAnyCase environmentText environment.name ∧
        Numeral index.toNat indexText.toList ∧ (∀ layer ∈ rest.head?, isIdentifier layer = true) ∧
        command = .roundStart map environment index rest.head? := by
  constructor
  · intro accepted
    obtain ⟨map', readMap, accepted⟩ := bind_eq_ok accepted
    obtain ⟨environment, readEnvironment, accepted⟩ := bind_eq_ok accepted
    obtain ⟨index, readIndex, accepted⟩ := bind_eq_ok accepted
    obtain ⟨layerId, readLayer, accepted⟩ := bind_eq_ok accepted
    obtain ⟨named, rfl⟩ := identifier_eq_ok_iff.1 readMap
    obtain ⟨layers, rfl⟩ := layer_eq_ok_iff.1 readLayer
    exact ⟨environment, index, named, environment_eq_ok_iff.1 readEnvironment,
      roundIndex_eq_ok_iff.1 readIndex, layers, (Except.ok.inj accepted).symm⟩
  · rintro ⟨environment, index, named, cased, numeral, layers, rfl⟩
    show (identifier map >>= _) = _
    rw [identifier_eq_ok_iff.2 ⟨named, rfl⟩]
    show (Command.environment environmentText >>= _) = _
    rw [environment_eq_ok_iff.2 cased]
    show (roundIndex indexText >>= _) = _
    rw [roundIndex_eq_ok_iff.2 numeral]
    show (rest.head?.mapM identifier >>= _) = _
    rw [layer_eq_ok_iff.2 ⟨layers, rfl⟩]
    rfl

end

/-! ## The ways to type a command -/

/-- The arguments of a command as they may be typed. -/
def TypedArguments : Command → List String → Prop
  | roundStart map environment roundIndex layerId, arguments =>
    ∃ typedEnvironment typedIndex, InAnyCase typedEnvironment environment.name ∧
      Numeral roundIndex.toNat typedIndex.toList ∧
      arguments = map :: typedEnvironment :: typedIndex :: layerId.toList
  | _, arguments => arguments = []

/-- The words of a command as they may be typed. -/
def Typed (command : Command) (words : List String) : Prop :=
  ∃ typed arguments, command.verb.Spelt typed ∧ command.TypedArguments arguments ∧ words = typed :: arguments

/-- Its map and its layer are identifiers. -/
def Valid : Command → Prop
  | roundStart map _ _ layerId => isIdentifier map = true ∧ ∀ layer ∈ layerId, isIdentifier layer = true
  | _ => True

/-- What may follow a command, to be passed over: anything, unless it would be the layer of a round start. -/
def Passes (command : Command) (extra : List String) : Prop :=
  ∀ map environment roundIndex, command = .roundStart map environment roundIndex none → extra = []

/-- A number is a word. -/
theorem isWord_of_numeral {n : Nat} {cs : List Char} (h : Numeral n cs) : IsWord cs := by
  obtain ⟨sign, zeros, signed, rfl⟩ := h
  refine ⟨by simp [Nat.toDigits_ne_nil], List.forall_mem_append.2 ⟨?sign, fun c hc => ?digit⟩⟩
  case sign =>
    rcases signed with rfl | rfl
    · exact nofun
    · exact List.forall_mem_singleton.2 rfl
  case digit =>
    refine isBlank_of_isIdentifierChar ?_
    rw [isIdentifierChar, Char.isAlphanum, Text.isDigit_of_mem_zeros hc, Bool.or_true, Bool.true_or]

variable {command : Command} {words extra : List String}

/-- The words of a valid command are words. -/
theorem Typed.isWord (h : command.Typed words) (valid : command.Valid) : ∀ w ∈ words, IsWord w.toList := by
  obtain ⟨typed, arguments, spelt, given, rfl⟩ := h
  refine List.forall_mem_cons.2 ⟨spelt.isWord, ?_⟩
  cases command with
  | roundStart map environment index layerId =>
    obtain ⟨typedEnvironment, typedIndex, cased, numeral, rfl⟩ := given
    have named : isIdentifier environment.name = true := by cases environment <;> decide
    simp only [List.forall_mem_cons, Option.mem_toList]
    exact ⟨isWord_of_isIdentifier valid.1, isWord_of_inAnyCase cased named, isWord_of_numeral numeral,
      fun layer hlayer => isWord_of_isIdentifier (valid.2 layer hlayer)⟩
  | _ =>
    obtain rfl := given
    exact nofun

/-- **The words that are accepted for a command** are the ways to type it, with what is passed over. -/
theorem ofWords_eq_ok_iff :
    ofWords words = .ok command ↔
      command.Valid ∧ ∃ own extra, command.Typed own ∧ command.Passes extra ∧ words = own ++ extra := by
  constructor
  · intro accepted
    cases words with
    | nil => cases accepted
    | cons typed arguments =>
      by_cases unknown : ∀ v : Verb, ¬ v.Spelt typed
      · rw [ofWords_of_unknown unknown] at accepted
        cases accepted
      push Not at unknown
      obtain ⟨v, spelt⟩ := unknown
      rw [ofWords_of_spelt spelt] at accepted
      cases v with
      | roundStart =>
        rcases arguments with _ | ⟨map, _ | ⟨environmentText, _ | ⟨indexText, rest⟩⟩⟩ <;> try cases accepted
        obtain ⟨environment, index, named, cased, numeral, layers, rfl⟩ := roundStartOf_eq_ok_iff.1 accepted
        refine ⟨⟨named, layers⟩, _, rest.tail, ⟨typed, _, spelt, ⟨_, _, cased, numeral, rfl⟩, rfl⟩, ?_, ?_⟩
        · intro _ _ _ same
          cases rest with
          | nil => rfl
          | cons layer rest => cases same
        · cases rest <;> rfl
      | preview | reload | status | shutdown =>
        obtain rfl := Except.ok.inj accepted
        exact ⟨trivial, [typed], arguments, ⟨typed, [], spelt, rfl, rfl⟩, nofun, rfl⟩
  · rintro ⟨valid, own, extra, ⟨typed, arguments, spelt, given, rfl⟩, passes, rfl⟩
    rw [List.cons_append, ofWords_of_spelt spelt]
    cases command with
    | roundStart map environment index layerId =>
      obtain ⟨typedEnvironment, typedIndex, cased, numeral, rfl⟩ := given
      -- Whatever came after a round start without a layer would be taken for one.
      have first : (layerId.toList ++ extra).head? = layerId := by
        cases layerId with
        | none => rw [passes map environment index rfl]; rfl
        | some layer => rfl
      show roundStartOf (map :: typedEnvironment :: typedIndex :: (layerId.toList ++ extra)) = _
      rw [roundStartOf_eq_ok_iff, first]
      exact ⟨environment, index, valid.1, cased, numeral, valid.2, rfl⟩
    | _ => rfl

/-! ## Flaws -/

/-- What may be wrong with a line. Positions count its words, and the verb is at position 0. -/
inductive Flaw
  | empty
  | unknownCommand
  | missing (position : Nat) (argument : String)
  | notIdentifier (position : Nat)
  | notEnvironment (position : Nat)
  | notInteger (position : Nat)
  deriving DecidableEq, Repr

namespace Flaw

/-- The flaws of a round start, in the order in which they are looked for. -/
def ofRoundStart : List Flaw :=
  [missing 1 "map", missing 2 "environment", missing 3 "round_index",
    notIdentifier 1, notEnvironment 2, notInteger 3, notIdentifier 4]

/-- The flaws in the order in which they are looked for. -/
def order : List Flaw := empty :: unknownCommand :: ofRoundStart

/-- The words begin with the verb of a round start. -/
def StartsRound (words : List String) : Prop := ∃ typed ∈ words.head?, Verb.roundStart.Spelt typed

/-- The words have this flaw, which is reported by this error. -/
def Reports : Flaw → List String → CommandError → Prop
  | empty, words, e => words = [] ∧ e = .empty
  | unknownCommand, words, e =>
    ∃ typed ∈ words.head?, (∀ v : Verb, ¬ v.Spelt typed) ∧ e = .unknownCommand (asciiLower typed)
  | missing position argument, words, e =>
    StartsRound words ∧ words[position]? = none ∧ e = .missingArgument argument
  | notIdentifier position, words, e =>
    StartsRound words ∧ ∃ s ∈ words[position]?, isIdentifier s = false ∧ e = .invalidIdentifier s
  | notEnvironment position, words, e =>
    StartsRound words ∧ ∃ s ∈ words[position]?, (∀ a : Environment, ¬ InAnyCase s a.name) ∧
      e = .invalidEnvironment s
  | notInteger position, words, e =>
    StartsRound words ∧ ∃ s ∈ words[position]?, ∃ fault, Refused UInt64.size s.toList fault ∧
      e = .invalidInteger s "round index" fault

/-- The first of some flaws that the words have is reported by this error. -/
def IsFirst (flaws : List Flaw) (words : List String) (e : CommandError) : Prop :=
  ∃ before flaw after, flaws = before ++ flaw :: after ∧ flaw.Reports words e ∧
    ∀ earlier ∈ before, ∀ e', ¬ earlier.Reports words e'

variable {flaw : Flaw} {flaws : List Flaw}

theorem not_isFirst_nil : ¬ IsFirst [] words e := by
  rintro ⟨before, flaw, after, none, _⟩
  cases before <;> cases none

/-- The first flaw is the one in front, unless the words do not have it. -/
theorem isFirst_cons_iff :
    IsFirst (flaw :: flaws) words e ↔
      flaw.Reports words e ∨ (∀ e', ¬ flaw.Reports words e') ∧ IsFirst flaws words e := by
  constructor
  · rintro ⟨before, found, after, parts, reports, none⟩
    cases before with
    | nil =>
      obtain ⟨rfl, rfl⟩ := List.cons.inj parts
      exact .inl reports
    | cons earlier before =>
      obtain ⟨rfl, rfl⟩ := List.cons.inj parts
      obtain ⟨first, others⟩ := List.forall_mem_cons.1 none
      exact .inr ⟨first, before, found, after, rfl, reports, others⟩
  · rintro (reports | ⟨first, before, found, after, rfl, reports, none⟩)
    · exact ⟨[], flaw, flaws, rfl, reports, nofun⟩
    · exact ⟨flaw :: before, found, after, rfl, reports, List.forall_mem_cons.2 ⟨first, none⟩⟩

/-- A flaw that the words have, in front of the others. -/
theorem isFirst_of_reports {e' : CommandError} (only : ∀ e, flaw.Reports words e ↔ e = e') :
    IsFirst (flaw :: flaws) words e ↔ e = e' := by
  rw [isFirst_cons_iff, only]
  exact or_iff_left fun h => h.1 e' ((only e').2 rfl)

/-- A flaw that the words do not have. -/
theorem isFirst_of_silent (silent : ∀ e', ¬ flaw.Reports words e') :
    IsFirst (flaw :: flaws) words e ↔ IsFirst flaws words e := by
  rw [isFirst_cons_iff]
  exact ⟨fun h => (h.resolve_left (silent e)).2, fun h => .inr ⟨silent, h⟩⟩

/-- **A check that fails just on one flaw, and others after it.** -/
theorem isFirst_bind {α β : Type} {x : Except CommandError α} {k : α → Except CommandError β}
    (reports : ∀ e, flaw.Reports words e ↔ x = .error e)
    (rest : ∀ a, x = .ok a → (IsFirst flaws words e ↔ k a = .error e)) :
    IsFirst (flaw :: flaws) words e ↔ (x >>= k) = .error e := by
  cases x with
  | error e' =>
    have only (e : CommandError) : flaw.Reports words e ↔ e = e' := by
      rw [reports, Except.error.injEq, eq_comm]
    rw [isFirst_of_reports only]
    exact ⟨fun same => same ▸ rfl, fun same => (Except.error.inj same).symm⟩
  | ok a =>
    have silent : ∀ e', ¬ flaw.Reports words e' := fun e' h => nomatch (reports e').1 h
    rw [isFirst_of_silent silent, rest a rfl]
    rfl

/-- The flaws of a round start are flaws of nothing else. -/
theorem IsFirst.startsRound (h : IsFirst ofRoundStart words e) : StartsRound words := by
  obtain ⟨before, flaw, after, parts, reports, _⟩ := h
  have listed : flaw ∈ ofRoundStart := by
    rw [parts]
    exact List.mem_append_right before List.mem_cons_self
  cases flaw with
  | empty | unknownCommand => exact absurd listed (by decide)
  | missing | notIdentifier | notEnvironment | notInteger => exact reports.1

section

variable {position : Nat} {argument : String}

theorem reports_missing_iff (starts : StartsRound words) (none : words[position]? = none) (e : CommandError) :
    (missing position argument).Reports words e ↔ e = .missingArgument argument :=
  ⟨fun h => h.2.2, fun same => ⟨starts, none, same⟩⟩

theorem not_reports_missing {s : String} (found : words[position]? = some s) (e : CommandError) :
    ¬ (missing position argument).Reports words e :=
  fun h => nomatch found.symm.trans h.2.1

/-- Something that is said of the word at a position. -/
theorem atPosition_iff (starts : StartsRound words) {s : String} (found : words[position]? = some s)
    (p : String → Prop) : (StartsRound words ∧ ∃ s ∈ words[position]?, p s) ↔ p s := by
  rw [found]
  exact ⟨fun ⟨_, _, same, holds⟩ => Option.some.inj same ▸ holds, fun holds => ⟨starts, s, rfl, holds⟩⟩

end

end Flaw

open Flaw

/-- **What is reported of the arguments of a round start is their first flaw.** -/
theorem roundStartOf_eq_error_iff (spelt : Verb.roundStart.Spelt typed) :
    roundStartOf arguments = .error e ↔ IsFirst ofRoundStart (typed :: arguments) e := by
  have starts (arguments : List String) : StartsRound (typed :: arguments) := ⟨typed, rfl, spelt⟩
  have swap {e e' : CommandError} : Except.error (α := Command) e' = .error e ↔ e = e' := by
    rw [Except.error.injEq, eq_comm]
  unfold ofRoundStart
  rcases arguments with _ | ⟨map, _ | ⟨environmentText, _ | ⟨indexText, rest⟩⟩⟩
  · rw [isFirst_of_reports (reports_missing_iff (starts _) rfl)]
    exact swap
  · rw [isFirst_of_silent (not_reports_missing rfl), isFirst_of_reports (reports_missing_iff (starts _) rfl)]
    exact swap
  · rw [isFirst_of_silent (not_reports_missing rfl), isFirst_of_silent (not_reports_missing rfl),
      isFirst_of_reports (reports_missing_iff (starts _) rfl)]
    exact swap
  · rw [isFirst_of_silent (not_reports_missing rfl), isFirst_of_silent (not_reports_missing rfl),
      isFirst_of_silent (not_reports_missing rfl)]
    -- Now one check follows the other, and each fails on its own flaw.
    refine (isFirst_bind ?map fun _ _ => isFirst_bind ?environment fun _ _ =>
      isFirst_bind ?index fun _ _ => isFirst_bind ?layer fun _ _ => ?done).symm
    case map =>
      intro e
      exact (atPosition_iff (starts _) rfl _).trans identifier_eq_error_iff.symm
    case environment =>
      intro e
      exact (atPosition_iff (starts _) rfl _).trans environment_eq_error_iff.symm
    case index =>
      intro e
      exact (atPosition_iff (starts _) rfl _).trans roundIndex_eq_error_iff.symm
    case layer =>
      intro e
      rw [layer_eq_error_iff, List.head?_eq_getElem?]
      exact and_iff_right (starts _)
    case done => exact iff_of_false not_isFirst_nil nofun

/-- **What is reported of words is their first flaw.** -/
theorem ofWords_eq_error_iff : ofWords words = .error e ↔ IsFirst order words e := by
  unfold order
  cases words with
  | nil =>
    have only (e : CommandError) : Flaw.empty.Reports [] e ↔ e = .empty := and_iff_right rfl
    rw [isFirst_of_reports only, ofWords, Except.error.injEq, eq_comm]
  | cons typed arguments =>
    have notEmpty (e : CommandError) : ¬ Flaw.empty.Reports (typed :: arguments) e := by
      rintro ⟨nothing, _⟩
      cases nothing
    rw [isFirst_of_silent notEmpty]
    by_cases unknown : ∀ v : Verb, ¬ v.Spelt typed
    · have only (e : CommandError) : Flaw.unknownCommand.Reports (typed :: arguments) e ↔
          e = .unknownCommand (asciiLower typed) := by
        constructor
        · rintro ⟨_, ⟨⟩, _, same⟩
          exact same
        · exact fun same => ⟨typed, rfl, unknown, same⟩
      rw [ofWords_of_unknown unknown, isFirst_of_reports only, Except.error.injEq, eq_comm]
    push Not at unknown
    obtain ⟨v, spelt⟩ := unknown
    have known (e : CommandError) : ¬ Flaw.unknownCommand.Reports (typed :: arguments) e := by
      rintro ⟨_, ⟨⟩, unknown, _⟩
      exact unknown v spelt
    rw [isFirst_of_silent known, ofWords_of_spelt spelt]
    by_cases round : v = .roundStart
    · subst round
      exact roundStartOf_eq_error_iff spelt
    · -- Every other verb is accepted, whatever follows it.
      refine iff_of_false ?_ ?_
      · intro refused
        cases v with
        | roundStart => exact round rfl
        | preview | reload | status | shutdown => cases refused
      · intro first
        obtain ⟨_, ⟨⟩, rounds⟩ := first.startsRound
        exact round (spelt.unique rounds)

/-! ## Lines -/

/-- **The grammar of commands.** Every way to type a valid command is read as that command. Take any line,
and its words: they are accepted for a command just if they are a way to type it, with what may be passed
over after it, and the command is valid; of all other words the first flaw is reported, in the order of
`Flaw.order`. -/
theorem parse_grammar :
    (∀ (command : Command) (words : List String) (line : String),
      command.Valid → command.Typed words → Spaced words line → parse line = .ok command) ∧
    (∀ line, ∃! words, WordsOf line words) ∧
    ∀ (line : String) (words : List String), WordsOf line words →
      (∀ command, parse line = .ok command ↔
        command.Valid ∧ ∃ own extra, command.Typed own ∧ command.Passes extra ∧ words = own ++ extra) ∧
      ∀ e, parse line = .error e ↔ IsFirst order words e := by
  refine ⟨?_, Text.existsUnique_wordsOf, fun line words split => ?_⟩
  · intro command words line valid typed spaced
    have split : splitWords line = words := splitWords_eq_iff.2 ⟨typed.isWord valid, spaced⟩
    rw [parse, split, ofWords_eq_ok_iff]
    refine ⟨valid, words, [], typed, fun _ _ _ _ => rfl, (List.append_nil words).symm⟩
  · rw [parse, splitWords_eq_iff.2 split]
    exact ⟨fun command => ofWords_eq_ok_iff, fun e => ofWords_eq_error_iff⟩

/-- A round start with wide blanks, letters in upper case, a plus sign and zeros. -/
def wideLine : String := " ROUND\u2003carentan  NiGHT\t+0042\n"

theorem spaced_wideLine : Spaced ["ROUND", "carentan", "NiGHT", "+0042"] wideLine := by
  refine ⟨[' '], _, by decide, ?_, rfl⟩
  refine @Text.Followed.cons "ROUND".toList ['\u2003'] _ _ (by decide) (by decide) ?_
  refine @Text.Followed.cons "carentan".toList [' ', ' '] _ _ (by decide) (by decide) ?_
  refine @Text.Followed.cons "NiGHT".toList ['\t'] _ _ (by decide) (by decide) ?_
  exact @Text.Followed.cons "+0042".toList ['\n'] _ _ (by decide) (by decide) .nil

/-- A round start whose map is no identifier, and which lacks its round index. -/
def shortLine : String := "round foy! night"

theorem wordsOf_shortLine : WordsOf shortLine ["round", "foy!", "night"] := by
  refine ⟨by decide, [], _, by decide, ?_, rfl⟩
  refine @Text.Followed.cons "round".toList [' '] _ _ (by decide) (by decide) ?_
  refine @Text.Followed.cons "foy!".toList [' '] _ _ (by decide) (by decide) ?_
  exact @Text.Followed.cons "night".toList [] _ _ (by decide) (by decide) .nil

/-- The first line is read as a round start. Of the second the missing argument is reported, not the
map. -/
theorem parse_grammar_wide :
    parse wideLine = .ok (.roundStart "carentan" .night 42 none) ∧
      parse shortLine = .error (.missingArgument "round_index") := by
  have spelt : Verb.roundStart.Spelt "ROUND" := ⟨"round", by decide, by decide⟩
  have numeral : Numeral 42 "+0042".toList := ⟨['+'], 2, .inr rfl, by decide⟩
  refine ⟨?wide, ?short⟩
  case wide =>
    refine parse_grammar.1 _ _ _ ⟨by decide, nofun⟩ ?_ spaced_wideLine
    exact ⟨"ROUND", _, spelt, ⟨"NiGHT", "+0042", by decide, numeral, rfl⟩, rfl⟩
  case short =>
    have starts : StartsRound ["round", "foy!", "night"] := ⟨"round", rfl, "round", by decide, by decide⟩
    refine ((parse_grammar.2.2 _ _ wordsOf_shortLine).2 _).2
      ⟨[.empty, .unknownCommand, .missing 1 "map", .missing 2 "environment"], .missing 3 "round_index",
        _, rfl, ⟨starts, rfl, rfl⟩, ?_⟩
    simp only [List.forall_mem_cons]
    refine ⟨fun _ h => (nomatch h.1), ?_, not_reports_missing rfl, not_reports_missing rfl, nofun⟩
    rintro _ ⟨_, ⟨⟩, unknown, _⟩
    exact unknown .roundStart ⟨"round", by decide, by decide⟩

end Command

end MapBallot
