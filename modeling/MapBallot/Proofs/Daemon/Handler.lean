import MapBallot.Daemon.Console
import MapBallot.Proofs.Json.OneLine
import MapBallot.Proofs.Process
import MapBallot.Proofs.Text.Lines

/-!
# `MapBallot.Proofs.Daemon.Handler` — one connection of an operator

Each connection has a handler of its own. It reads a line, passes over a blank one, refuses one that is no
command, and hands a command over to the main loop, whose reply it waits for. It writes one reply before
it reads the next line.

This module is about one connection and what the main loop has to do with it. What comes of it is an
account that every step keeps: the lines that were read are those that were answered and the one in
progress, and the commands among them are those that the main loop has carried out, has yet to carry out,
or is about to be handed.

## Contents

* `Handler`, `Connection`, `View`, `View.Step` — a connection, and what happens to it;
* `commandOf`, `after_eq`, `reply_eq` — what a handler makes of a line, and that it is `Console.reply`;
* `Orderly` — the account; `Orderly.outstanding_eq`, `Orderly.step`;
* `LineByLine`, `Orderly.lineByLine` — what it tells.
-/

namespace MapBallot.Daemon

open Process (Path host)

/-! ## Connections -/

/-- What the handler of a connection is about. -/
inductive Handler
  | reading
  /-- A line is a command that is to be handed over. -/
  | asking (line : List Char) (c : Command)
  /-- The command was handed over, with a place for the reply of its own. -/
  | awaiting (line : List Char) (c : Command) (reply : Option Json)
  | replying (line : List Char) (reply : Json)

/-- What becomes of a line that was read. The line break at its end is trimmed with its blanks. -/
def Handler.after (line : List Char) : Handler :=
  let text := Text.trim (line ++ ['\n'])
  if text.isEmpty then .reading
  else
    match Command.parse (String.ofList text) with
    | .error e => .replying line (Console.refused e.message)
    | .ok c => .asking line c

/-- The main loop leaves a reply where the handler waits for one. -/
def Handler.deliver (reply : Json) : Handler → Handler
  | awaiting line c none => awaiting line c (some reply)
  | h => h

/-- A connection, with what has passed through it so far. -/
structure Connection where
  /-- All the text that the operator sent. -/
  sent : List Char := []
  /-- The lines that the handler read, without their ends. -/
  taken : List (List Char) := []
  /-- The text that the handler has not read yet. -/
  unread : List Char := []
  handler : Handler := .reading
  /-- The replies, each with the line that it is for. -/
  replies : List (List Char × Json) := []

namespace Connection

def send (x : Connection) (cs : List Char) : Connection :=
  { x with sent := x.sent ++ cs, unread := x.unread ++ cs }

def read (x : Connection) (line rest : List Char) : Connection :=
  { x with taken := x.taken ++ [line], unread := rest, handler := .after line }

def turn (x : Connection) (h : Handler) : Connection := { x with handler := h }

def write (x : Connection) (line : List Char) (reply : Json) : Connection :=
  { x with replies := x.replies ++ [(line, reply)], handler := .reading }

def deliver (x : Connection) (reply : Json) : Connection :=
  { x with handler := x.handler.deliver reply }

/-- The text that the operator gets. -/
def received (x : Connection) : List Char :=
  x.replies.flatMap fun entry => (Console.lineOf entry.2).toList

end Connection

/-- A reply that carrying out a command may come to. -/
def Made (c : Command) (reply : Json) : Prop :=
  ∃ read entropy t, Path (Console.carryOut host Process.cell read entropy c) t reply

/-- A connection, with what the main loop has to do with it. -/
structure View where
  connection : Connection := {}
  /-- The commands that were handed over and are not carried out yet, in their order. -/
  outstanding : List Command := []
  /-- The commands that were carried out, with their replies. -/
  produced : List (Command × Json) := []

/-- What happens to a connection. -/
inductive View.Step : View → View → Prop
  | send (v : View) (cs : List Char) : Step v { v with connection := v.connection.send cs }
  | read (v : View) {line rest : List Char} (reading : v.connection.handler = .reading)
      (whole : '\n' ∉ line) (next : v.connection.unread = line ++ '\n' :: rest) :
      Step v { v with connection := v.connection.read line rest }
  | ask (v : View) {line : List Char} {c : Command} (asking : v.connection.handler = .asking line c) :
      Step v { v with
        connection := v.connection.turn (.awaiting line c none)
        outstanding := v.outstanding ++ [c] }
  | produce (v : View) {c : Command} {rest : List Command} {reply : Json}
      (next : v.outstanding = c :: rest) (made : Made c reply) :
      Step v ⟨v.connection.deliver reply, rest, v.produced ++ [(c, reply)]⟩
  | receive (v : View) {line : List Char} {c : Command} {reply : Json}
      (awaiting : v.connection.handler = .awaiting line c (some reply)) :
      Step v { v with connection := v.connection.turn (.replying line reply) }
  | write (v : View) {line : List Char} {reply : Json}
      (replying : v.connection.handler = .replying line reply) :
      Step v { v with connection := v.connection.write line reply }

/-! ## Lines -/

/-- Something is left of a line after trimming. -/
def wantsReply (line : List Char) : Bool := ! (Text.trim line).isEmpty

/-- The command of a line, if it is one. -/
def commandOf (line : List Char) : Option Command := (Command.parse (String.ofList line)).toOption

/-- A reply to a line that is no command says so. -/
def Refused (line : List Char) (reply : Json) : Prop :=
  ∀ e, Command.parse (String.ofList line) = .error e → reply = Console.refused e.message

theorem wantsReply_eq_true_iff {line : List Char} : wantsReply line = true ↔ Text.words line ≠ [] := by
  rw [wantsReply, Bool.not_eq_true', ← Bool.not_eq_true, List.isEmpty_iff, Text.trim_eq_nil_iff]

/-- A handler reads the words of a line, and nothing else of it. -/
theorem after_eq (line : List Char) :
    Handler.after line =
      if wantsReply line then
        match Command.parse (String.ofList line) with
        | .error e => .replying line (Console.refused e.message)
        | .ok c => .asking line c
      else .reading := by
  have words : Text.words (Text.trim (line ++ ['\n'])) = Text.words line := by
    rw [Text.words_trim, Text.words_concat (by decide)]
  have parse : Command.parse (String.ofList (Text.trim (line ++ ['\n']))) =
      Command.parse (String.ofList line) := by
    unfold Command.parse Text.splitWords
    rw [String.toList_ofList, String.toList_ofList, words]
  have blank : (Text.trim (line ++ ['\n'])).isEmpty = ! wantsReply line := by
    rw [Bool.eq_iff_iff, Bool.not_eq_true', ← Bool.not_eq_true, wantsReply_eq_true_iff, not_not,
      List.isEmpty_iff, Text.trim_eq_nil_iff, Text.words_concat (by decide)]
  unfold Handler.after
  dsimp only
  rw [blank, parse]
  cases wantsReply line <;> rfl

/-- **The reply to a line**, by what a handler makes of it. -/
theorem reply_eq {m : Type → Type} [Monad m] (host : Remote.Host m) (cell : Swap.Cell m Console)
    (read : Files.Reader) (entropy : RandomStream) (line : List Char) :
    Console.reply host cell read entropy (String.ofList line) =
      match Handler.after line with
      | .replying _ reply => pure (some reply)
      | .asking _ c => some <$> Console.carryOut host cell read entropy c
      | _ => pure none := by
  rw [after_eq, Console.reply, String.toList_ofList]
  by_cases some : wantsReply line = true
  · have words : (Text.words line).isEmpty = false := by
      rw [← Bool.not_eq_true, List.isEmpty_iff]
      exact wantsReply_eq_true_iff.1 some
    rw [words, some]
    cases Command.parse (String.ofList line) <;> rfl
  · have none : Text.words line = [] := not_not.1 (mt wantsReply_eq_true_iff.2 some)
    rw [none, if_neg some]
    rfl

/-- A line without words is no command. -/
theorem wantsReply_of_commandOf {line : List Char} {c : Command} (h : commandOf line = some c) :
    wantsReply line = true := by
  rw [wantsReply_eq_true_iff]
  intro none
  rw [commandOf, Command.parse, Text.splitWords, String.toList_ofList, none] at h
  cases h

/-! ## The account -/

/-- The command of a line that was answered, with the reply. -/
def commandReplied (entry : List Char × Json) : Option (Command × Json) :=
  (commandOf entry.1).map (·, entry.2)

namespace Handler

/-- The line in progress. -/
def lines : Handler → List (List Char)
  | reading => []
  | asking line _ | awaiting line _ _ | replying line _ => [line]

/-- The command that is to be handed over. -/
def toAsk : Handler → List Command
  | asking _ c => [c]
  | _ => []

/-- The command that a reply is waited for. -/
def unanswered : Handler → List Command
  | awaiting _ c none => [c]
  | _ => []

/-- A reply of the main loop that is not written yet, with its command. -/
def delivered : Handler → List (Command × Json)
  | awaiting _ c (some reply) => [(c, reply)]
  | replying line reply => [(line, reply)].filterMap commandReplied
  | _ => []

theorem unanswered_eq_cons {h : Handler} {c : Command} {rest : List Command}
    (e : h.unanswered = c :: rest) : ∃ line, h = awaiting line c none ∧ rest = [] := by
  match h with
  | awaiting line _ none =>
    obtain ⟨rfl, rfl⟩ := List.cons.inj e
    exact ⟨line, rfl, rfl⟩

/-- What a handler is about is what its line asks for. -/
def Sound : Handler → Prop
  | reading => True
  | asking line c | awaiting line c _ => commandOf line = some c
  | replying line reply => Refused line reply

end Handler

theorem lines_after (line : List Char) : (Handler.after line).lines = [line].filter wantsReply := by
  rw [after_eq, List.filter_singleton]
  cases wantsReply line with
  | false => rfl
  | true => cases Command.parse (String.ofList line) <;> rfl

theorem toAsk_after (line : List Char) :
    (Handler.after line).toAsk = [line].filterMap commandOf := by
  rw [after_eq]
  cases some : wantsReply line with
  | false =>
    have none : commandOf line = none := Option.eq_none_iff_forall_ne_some.2 fun c h =>
      absurd (some.symm.trans (wantsReply_of_commandOf h)) (by decide)
    rw [List.filterMap_cons_none none]
    rfl
  | true =>
    cases parsed : Command.parse (String.ofList line) <;>
      simp [Handler.toAsk, commandOf, parsed, Except.toOption]

theorem delivered_after (line : List Char) : (Handler.after line).delivered = [] := by
  rw [after_eq]
  cases wantsReply line with
  | false => rfl
  | true =>
    cases parsed : Command.parse (String.ofList line) with
    | ok c => rfl
    | error e => simp [Handler.delivered, commandReplied, commandOf, parsed, Except.toOption]

theorem sound_after (line : List Char) : (Handler.after line).Sound := by
  rw [after_eq]
  cases wantsReply line with
  | false => trivial
  | true =>
    cases parsed : Command.parse (String.ofList line) with
    | ok c => simp [Handler.Sound, commandOf, parsed, Except.toOption]
    | error e =>
      intro e' again
      rw [parsed] at again
      cases again
      rfl

/-- The account of a connection. -/
structure Orderly (v : View) : Prop where
  /-- Nothing that was sent is lost. -/
  sent : v.connection.sent = v.connection.taken.flatMap (· ++ ['\n']) ++ v.connection.unread
  whole : ∀ line ∈ v.connection.taken, '\n' ∉ line
  /-- The lines that were read are those that were answered, and the one in progress. -/
  answered : v.connection.taken.filter wantsReply =
    v.connection.replies.map Prod.fst ++ v.connection.handler.lines
  /-- The commands among them are those that the main loop has carried out, has yet to carry out, or is
  about to be handed. -/
  asked : v.connection.taken.filterMap commandOf =
    v.produced.map Prod.fst ++ v.outstanding ++ v.connection.handler.toAsk
  /-- Each reply of the main loop is written, or is the one in progress. -/
  told : v.connection.replies.filterMap commandReplied ++ v.connection.handler.delivered = v.produced
  sound : v.connection.handler.Sound
  refused : ∀ entry ∈ v.connection.replies, Refused entry.1 entry.2
  made : ∀ entry ∈ v.produced, Made entry.1 entry.2

theorem orderly_start : Orderly {} where
  sent := rfl
  whole := nofun
  answered := rfl
  asked := rfl
  told := rfl
  sound := trivial
  refused := nofun
  made := nofun

theorem filterMap_commandOf_filter (ls : List (List Char)) :
    (ls.filter wantsReply).filterMap commandOf = ls.filterMap commandOf := by
  induction ls with
  | nil => rfl
  | cons line ls ih =>
    by_cases some : wantsReply line = true
    · rw [List.filter_cons_of_pos some, List.filterMap_cons, List.filterMap_cons, ih]
    · rw [List.filter_cons_of_neg some, ih, List.filterMap_cons_none]
      exact Option.eq_none_iff_forall_ne_some.2 fun c h => some (wantsReply_of_commandOf h)

theorem map_fst_commandReplied (entries : List (List Char × Json)) :
    (entries.filterMap commandReplied).map Prod.fst = (entries.map Prod.fst).filterMap commandOf := by
  induction entries with
  | nil => rfl
  | cons entry entries ih =>
    rw [List.map_cons, List.filterMap_cons, List.filterMap_cons, ← ih]
    cases found : commandOf entry.1 <;> simp [commandReplied, found]

/-- **The main loop has the command that is waited for, and no other.** -/
theorem Orderly.outstanding_eq {v : View} (h : Orderly v) :
    v.outstanding = v.connection.handler.unanswered := by
  have balance : v.connection.handler.lines.filterMap commandOf =
      v.connection.handler.delivered.map Prod.fst ++ v.outstanding ++ v.connection.handler.toAsk := by
    have commands := h.asked
    rw [← filterMap_commandOf_filter, h.answered, ← h.told, List.filterMap_append, List.map_append,
      map_fst_commandReplied, List.append_assoc, List.append_assoc] at commands
    rw [List.append_assoc]
    exact List.append_cancel_left commands
  have sound := h.sound
  cases handler : v.connection.handler with
  | reading =>
    rw [handler] at balance
    simpa [Handler.lines, Handler.delivered, Handler.toAsk, Handler.unanswered] using balance
  | asking line c =>
    rw [handler] at balance sound
    have own : commandOf line = some c := sound
    simpa [Handler.lines, Handler.delivered, Handler.toAsk, Handler.unanswered, own] using balance
  | awaiting line c reply =>
    rw [handler] at balance sound
    have own : commandOf line = some c := sound
    cases reply <;>
      simpa [Handler.lines, Handler.delivered, Handler.toAsk, Handler.unanswered, own, eq_comm] using balance
  | replying line reply =>
    rw [handler] at balance
    cases own : commandOf line <;>
      simpa [Handler.lines, Handler.delivered, Handler.toAsk, Handler.unanswered, commandReplied, own]
        using balance

/-- **Every step keeps the account.** -/
theorem Orderly.step {v v' : View} (h : Orderly v) (step : v.Step v') : Orderly v' := by
  have waits := h.outstanding_eq
  obtain ⟨⟨sent, taken, unread, handler, replies⟩, outstanding, produced⟩ := v
  obtain ⟨all, whole, answered, asked, told, sound, refused, made⟩ := h
  dsimp only at waits all whole answered asked told sound refused made
  cases step with
  | send cs =>
    refine ⟨?_, whole, answered, asked, told, sound, refused, made⟩
    dsimp only [Connection.send]
    rw [all, List.append_assoc]
  | @read line rest reading fresh next =>
    dsimp only at reading next
    subst reading next
    refine ⟨?_, ?_, ?_, ?_, ?_, sound_after line, refused, made⟩ <;> dsimp only [Connection.read]
    · rw [all, List.flatMap_append, List.flatMap_singleton, List.append_assoc, List.append_assoc]
      rfl
    · exact List.forall_mem_append.2 ⟨whole, List.forall_mem_singleton.2 fresh⟩
    · rw [List.filter_append, answered, lines_after]
      exact congrArg (· ++ _) (List.append_nil _)
    · rw [List.filterMap_append, asked, toAsk_after]
      exact congrArg (· ++ _) (List.append_nil _)
    · rw [delivered_after]
      exact told
  | @ask line c asking =>
    dsimp only at asking
    subst asking
    refine ⟨all, whole, answered, ?_, told, sound, refused, made⟩
    dsimp only [Connection.turn]
    rw [asked, List.append_assoc _ outstanding, List.append_assoc _ (outstanding ++ [c])]
    exact congrArg _ (List.append_nil _).symm
  | @produce c rest reply next answer =>
    -- The command is the one that is waited for, so its reply is left where the handler finds it.
    dsimp only at next
    subst next
    obtain ⟨line, rfl, rfl⟩ := Handler.unanswered_eq_cons waits.symm
    refine ⟨all, whole, answered, ?_, ?_, sound, refused, ?_⟩ <;>
      dsimp only [Connection.deliver, Handler.deliver]
    · rw [asked, List.map_append]
      simp [Handler.toAsk]
    · rw [← told]
      simp [Handler.delivered]
    · exact List.forall_mem_append.2 ⟨made, List.forall_mem_singleton.2 answer⟩
  | @receive line c reply awaiting =>
    dsimp only at awaiting
    subst awaiting
    have own : commandOf line = some c := sound
    refine ⟨all, whole, answered, asked, ?_, ?_, refused, made⟩ <;> dsimp only [Connection.turn]
    · rw [← told]
      simp [Handler.delivered, commandReplied, own]
    · intro e failed
      rw [commandOf, failed] at own
      cases own
  | @write line reply replying =>
    dsimp only at replying
    subst replying
    refine ⟨all, whole, ?_, asked, ?_, trivial, ?_, made⟩ <;> dsimp only [Connection.write]
    · rw [List.map_append, answered]
      exact (List.append_nil _).symm
    · rw [List.filterMap_append, ← told]
      exact List.append_nil _
    · exact List.forall_mem_append.2 ⟨refused, List.forall_mem_singleton.2 sound⟩

/-! ## What the account tells -/

/-- What an operator gets, by what was sent. -/
structure LineByLine (v : View) : Prop where
  /-- Each complete line that is not blank has one reply, in the order of the lines, and no other has
  any. -/
  answered : v.connection.replies.map Prod.fst <+: (Text.lines v.connection.sent).filter wantsReply
  replied : ∀ entry ∈ v.connection.replies, ∃ read entropy t,
    Path (Console.reply host Process.cell read entropy (String.ofList entry.1)) t (some entry.2)
  /-- A line that is no command is refused. -/
  refused : ∀ entry ∈ v.connection.replies, Refused entry.1 entry.2
  /-- Each reply is one line. -/
  received : Text.lines v.connection.received =
    v.connection.replies.map fun entry => (Json.print entry.2).toList
  /-- The main loop is handed the lines that are commands, each once and in their order, and no
  others. -/
  handed : v.produced.map Prod.fst ++ v.outstanding <+:
    (Text.lines v.connection.sent).filterMap commandOf
  /-- They get the replies that the main loop produced for this connection, in their order. -/
  told : v.connection.replies.filterMap commandReplied <+: v.produced

/-- Reading goes through the lines that were sent. -/
theorem Orderly.lines_eq {v : View} (h : Orderly v) :
    Text.lines v.connection.sent = v.connection.taken ++ Text.lines v.connection.unread := by
  rw [h.sent, Text.lines_append h.whole]

theorem Orderly.reply_path {v : View} (h : Orderly v) {line : List Char} {reply : Json}
    (written : (line, reply) ∈ v.connection.replies) : ∃ read entropy t,
      Path (Console.reply host Process.cell read entropy (String.ofList line)) t (some reply) := by
  have wants : wantsReply line = true := by
    have mem : line ∈ v.connection.replies.map Prod.fst ++ v.connection.handler.lines :=
      List.mem_append_left _ (List.mem_map_of_mem written)
    rw [← h.answered] at mem
    exact (List.mem_filter.1 mem).2
  simp only [reply_eq, after_eq, wants, if_true]
  cases parsed : Command.parse (String.ofList line) with
  | error e =>
    obtain rfl : reply = Console.refused e.message := h.refused _ written e parsed
    exact ⟨fun _ => .error .notFound, ⟨fun _ => 0, 0⟩, [], .done _⟩
  | ok c =>
    have own : commandReplied (line, reply) = some (c, reply) := by
      simp [commandReplied, commandOf, parsed, Except.toOption]
    have made : (c, reply) ∈ v.produced := by
      rw [← h.told]
      exact List.mem_append_left _ (List.mem_filterMap.2 ⟨_, written, own⟩)
    obtain ⟨read, entropy, t, path⟩ := h.made _ made
    exact ⟨read, entropy, t, Process.path_map_iff.2 ⟨reply, path, rfl⟩⟩

theorem lines_received (x : Connection) :
    Text.lines x.received = x.replies.map fun entry => (Json.print entry.2).toList := by
  have each : ∀ line ∈ x.replies.map fun entry => (Json.print entry.2).toList, '\n' ∉ line :=
    List.forall_mem_map.2 fun entry _ => (Json.oneLine_print entry.2).not_mem
  have split := Text.lines_append each []
  rw [List.flatMap_map, List.append_nil, Text.lines_of_not_mem List.not_mem_nil, List.append_nil] at split
  rw [← split, Connection.received]
  congr 2
  funext entry
  rw [Console.lineOf, String.toList_append]
  rfl

/-- **An account that is kept answers line by line.** -/
theorem Orderly.lineByLine {v : View} (h : Orderly v) : LineByLine v where
  answered := by
    rw [h.lines_eq, List.filter_append, h.answered, List.append_assoc]
    exact List.prefix_append _ _
  replied entry written := h.reply_path written
  refused := h.refused
  received := lines_received v.connection
  handed := by
    rw [h.lines_eq, List.filterMap_append, h.asked, List.append_assoc]
    exact List.prefix_append _ _
  told := by
    rw [← h.told]
    exact List.prefix_append _ _

end MapBallot.Daemon
