import MapBallot.Swap.Exclusive

/-!
# `MapBallot.Proofs.Process` — operations as trees of single steps

An operation on the remote tool and on a shared value (`Swap.runExclusive`, `Service.cycleWith`, …)
is written for any monad. Run in `Process σ` it is the tree of everything it can do: each step of it
makes a call, asks about a shutdown, or reads and replaces the shared value, and the tree branches
over what the step is told. The statements about operations are about these trees, so they hold for
every remote tool, every shutdown and everybody else who uses the shared value.

## Contents

* `Process` — the trees, and their monad; `Process.host`, `Process.cell` and `Process.partCell` —
  what carries out their steps;
* `Move`, `Process.Step`, `Process.Path` — one step, and the steps from the root to a result;
* `answers`, `looks` — the calls among some steps, and what the looks for a shutdown found;
* `Path.unique` — the steps determine the result;
* `path_bind_iff`, `runOn_bind` and others — the paths of composed operations;
* `Process.Run`, `Chain` — an operation in progress, and a shared value that only it changes;
  `Process.exists_path` — every operation can come to an end;
* `Process.movesOf` — the steps of one operation, among the steps of several;
* `Process.Keeps` — a part of the shared value that an operation never changes.
-/

namespace MapBallot

open Remote (Call Host Program)
open Swap (Cell)

variable {σ β γ : Type}

/-- An operation on the remote tool and on a shared value, as the tree of what it can do. -/
inductive Process (σ β : Type) : Type
  /-- The end of the operation. -/
  | done (value : β)
  /-- Makes a call and goes on with its answer. -/
  | call (c : Call) (next : c.Answer → Process σ β)
  /-- Asks whether a shutdown was asked for. -/
  | poll (next : Bool → Process σ β)
  /-- Lets the remote tool settle, and asks whether a shutdown was asked for meanwhile. -/
  | settle (millis : UInt64) (next : Bool → Process σ β)
  /-- Replaces the shared value by one made from it, and goes on with the old one. -/
  | exchange (change : σ → σ) (next : σ → Process σ β)

namespace Process

/-- Goes on with another operation after the end of this one. -/
def andThen : Process σ β → (β → Process σ γ) → Process σ γ
  | done value, f => f value
  | call c next, f => call c fun answer => (next answer).andThen f
  | poll next, f => poll fun raised => (next raised).andThen f
  | settle millis next, f => settle millis fun raised => (next raised).andThen f
  | exchange change next, f => exchange change fun s => (next s).andThen f

instance : Monad (Process σ) where
  pure := done
  bind := andThen

theorem andThen_done (p : Process σ β) : p.andThen done = p := by
  induction p with
  | done value => rfl
  | call c next ih => simp only [andThen, ih]
  | poll next ih => simp only [andThen, ih]
  | settle millis next ih => simp only [andThen, ih]
  | exchange change next ih => simp only [andThen, ih]

theorem andThen_assoc {δ : Type} (p : Process σ β) (f : β → Process σ γ) (g : γ → Process σ δ) :
    (p.andThen f).andThen g = p.andThen fun b => (f b).andThen g := by
  induction p with
  | done value => rfl
  | call c next ih => simp only [andThen, ih]
  | poll next ih => simp only [andThen, ih]
  | settle millis next ih => simp only [andThen, ih]
  | exchange change next ih => simp only [andThen, ih]

instance : LawfulMonad (Process σ) :=
  LawfulMonad.mk' _ andThen_done (fun _ _ => rfl) andThen_assoc

/-- Steps of programs are steps of the operation. What is logged is of no consequence to it. -/
def host : Host (Process σ) where
  call c := call c done
  poll := poll done
  settle millis := settle millis done
  log _ := pure ()

/-- The part of the shared value that `part` gives and `replace` puts back. -/
def partCell {τ : Type} (part : σ → τ) (replace : σ → τ → σ) : Cell (Process σ) τ where
  read := exchange id fun s => done (part s)
  write x := exchange (fun s => replace s x) fun _ => done ()
  exchange change := exchange (fun s => replace s (change (part s))) fun s => done (part s)

/-- The shared value. -/
def cell : Cell (Process σ) σ := partCell id fun _ s => s

theorem cell_focus {τ : Type} (part : σ → τ) (replace : σ → τ → σ) :
    cell.focus part replace = partCell part replace := rfl

end Process

/-- A step of an operation, with what it was told. -/
inductive Move (σ : Type) : Type
  | answered (c : Call) (answer : c.Answer)
  | polled (raised : Bool)
  | settled (raised : Bool)
  | exchanged (before after : σ)

/-- The calls of some steps, with their answers. -/
def answers (t : List (Move σ)) : List ((c : Call) × c.Answer) :=
  t.filterMap fun
    | .answered c answer => some ⟨c, answer⟩
    | _ => none

/-- What the looks for a shutdown found. -/
def looks (t : List (Move σ)) : List Bool :=
  t.filterMap fun
    | .polled raised => some raised
    | _ => none

section

variable (t : List (Move σ))

@[simp]
theorem answers_answered (c : Call) (answer : c.Answer) :
    answers (.answered c answer :: t) = ⟨c, answer⟩ :: answers t := rfl

@[simp]
theorem answers_polled (raised : Bool) : answers (.polled raised :: t) = answers t := rfl

@[simp]
theorem answers_exchanged (s s' : σ) : answers (.exchanged s s' :: t) = answers t := rfl

@[simp]
theorem looks_answered (c : Call) (answer : c.Answer) :
    looks (.answered c answer :: t) = looks t := rfl

@[simp]
theorem looks_exchanged (s s' : σ) : looks (.exchanged s s' :: t) = looks t := rfl

end

@[simp]
theorem answers_append (t u : List (Move σ)) : answers (t ++ u) = answers t ++ answers u :=
  List.filterMap_append

@[simp]
theorem looks_append (t u : List (Move σ)) : looks (t ++ u) = looks t ++ looks u :=
  List.filterMap_append

namespace Process

/-- What an operation does next, and what is left of it then. -/
inductive Step : Process σ β → Move σ → Process σ β → Prop
  | call (c : Call) (next : c.Answer → Process σ β) (answer : c.Answer) :
      Step (.call c next) (.answered c answer) (next answer)
  | poll (next : Bool → Process σ β) (raised : Bool) : Step (.poll next) (.polled raised) (next raised)
  | settle (millis : UInt64) (next : Bool → Process σ β) (raised : Bool) :
      Step (.settle millis next) (.settled raised) (next raised)
  | exchange (change : σ → σ) (next : σ → Process σ β) (s : σ) :
      Step (.exchange change next) (.exchanged s (change s)) (next s)

/-- The steps from the beginning of an operation to a result of it. -/
inductive Path : Process σ β → List (Move σ) → β → Prop
  | done (value : β) : Path (.done value) [] value
  | step {p q : Process σ β} {m : Move σ} {t : List (Move σ)} {value : β} (head : p.Step m q)
      (tail : q.Path t value) : Path p (m :: t) value

/-- What an operation was told determines what is left of it. -/
theorem Step.unique {p q r : Process σ β} {m : Move σ} (h : p.Step m q) (h' : p.Step m r) :
    q = r := by
  cases h <;> cases h' <;> rfl

/-- **What an operation was told determines its result.** Of two paths that agree as far as they go,
neither goes on where the other ends. -/
theorem Path.unique {p : Process σ β} {t t' u : List (Move σ)} {v v' : β} (h : p.Path t v)
    (h' : p.Path t' v') (ht : t <+: u) (ht' : t' <+: u) : t = t' ∧ v = v' := by
  induction h generalizing t' u with
  | done value =>
    cases h' with
    | done => exact ⟨rfl, rfl⟩
    | step head _ => cases head
  | @step p q m t value head tail ih =>
    cases h' with
    | done => cases head
    | @step _ q' m' t' _ head' tail' =>
      obtain ⟨w, rfl⟩ := ht
      obtain ⟨rfl, hp⟩ := List.cons_prefix_cons.1 ht'
      obtain rfl := head.unique head'
      obtain ⟨rfl, rfl⟩ := ih tail' (List.prefix_append t w) hp
      exact ⟨rfl, rfl⟩

/-! ## Paths of each kind of tree -/

variable {t : List (Move σ)} {v : β}

@[simp]
theorem path_done_iff {w : β} : Path (.done w : Process σ β) t v ↔ t = [] ∧ v = w := by
  constructor
  · rintro (_ | ⟨⟨⟩, _⟩)
    exact ⟨rfl, rfl⟩
  · rintro ⟨rfl, rfl⟩
    exact .done v

@[simp]
theorem path_call_iff {c : Call} {next : c.Answer → Process σ β} :
    Path (.call c next) t v ↔ ∃ a t', t = .answered c a :: t' ∧ (next a).Path t' v := by
  constructor
  · rintro (_ | ⟨⟨⟩, tail⟩)
    exact ⟨_, _, rfl, tail⟩
  · rintro ⟨a, t', rfl, h⟩
    exact .step (.call c next a) h

@[simp]
theorem path_poll_iff {next : Bool → Process σ β} :
    Path (.poll next) t v ↔ ∃ b t', t = .polled b :: t' ∧ (next b).Path t' v := by
  constructor
  · rintro (_ | ⟨⟨⟩, tail⟩)
    exact ⟨_, _, rfl, tail⟩
  · rintro ⟨b, t', rfl, h⟩
    exact .step (.poll next b) h

@[simp]
theorem path_settle_iff {millis : UInt64} {next : Bool → Process σ β} :
    Path (.settle millis next) t v ↔ ∃ b t', t = .settled b :: t' ∧ (next b).Path t' v := by
  constructor
  · rintro (_ | ⟨⟨⟩, tail⟩)
    exact ⟨_, _, rfl, tail⟩
  · rintro ⟨b, t', rfl, h⟩
    exact .step (.settle millis next b) h

@[simp]
theorem path_exchange_iff {change : σ → σ} {next : σ → Process σ β} :
    Path (.exchange change next) t v ↔
      ∃ s t', t = .exchanged s (change s) :: t' ∧ (next s).Path t' v := by
  constructor
  · rintro (_ | ⟨⟨⟩, tail⟩)
    exact ⟨_, _, rfl, tail⟩
  · rintro ⟨s, t', rfl, h⟩
    exact .step (.exchange change next s) h

@[simp]
theorem path_pure_iff {w : β} : Path (pure w : Process σ β) t v ↔ t = [] ∧ v = w := path_done_iff

/-- **Paths compose.** A path of two operations, one after the other, is a path of the first and then
one of the second. -/
theorem path_bind_iff {p : Process σ γ} {f : γ → Process σ β} :
    Path (p >>= f) t v ↔ ∃ t₁ t₂ a, t = t₁ ++ t₂ ∧ p.Path t₁ a ∧ (f a).Path t₂ v := by
  show Path (p.andThen f) t v ↔ _
  induction p generalizing t with
  | done value =>
    simp only [andThen, path_done_iff]
    constructor
    · intro h
      exact ⟨[], t, value, rfl, ⟨rfl, rfl⟩, h⟩
    · rintro ⟨_, t₂, _, rfl, ⟨rfl, rfl⟩, h⟩
      exact h
  | call c next ih =>
    simp only [andThen, path_call_iff, ih]
    constructor
    · rintro ⟨a, _, rfl, t₁, t₂, b, rfl, h₁, h₂⟩
      exact ⟨.answered c a :: t₁, t₂, b, rfl, ⟨a, t₁, rfl, h₁⟩, h₂⟩
    · rintro ⟨_, t₂, b, rfl, ⟨a, t₁, rfl, h₁⟩, h₂⟩
      exact ⟨a, t₁ ++ t₂, rfl, t₁, t₂, b, rfl, h₁, h₂⟩
  | poll next ih =>
    simp only [andThen, path_poll_iff, ih]
    constructor
    · rintro ⟨r, _, rfl, t₁, t₂, b, rfl, h₁, h₂⟩
      exact ⟨.polled r :: t₁, t₂, b, rfl, ⟨r, t₁, rfl, h₁⟩, h₂⟩
    · rintro ⟨_, t₂, b, rfl, ⟨r, t₁, rfl, h₁⟩, h₂⟩
      exact ⟨r, t₁ ++ t₂, rfl, t₁, t₂, b, rfl, h₁, h₂⟩
  | settle millis next ih =>
    simp only [andThen, path_settle_iff, ih]
    constructor
    · rintro ⟨r, _, rfl, t₁, t₂, b, rfl, h₁, h₂⟩
      exact ⟨.settled r :: t₁, t₂, b, rfl, ⟨r, t₁, rfl, h₁⟩, h₂⟩
    · rintro ⟨_, t₂, b, rfl, ⟨r, t₁, rfl, h₁⟩, h₂⟩
      exact ⟨r, t₁ ++ t₂, rfl, t₁, t₂, b, rfl, h₁, h₂⟩
  | exchange change next ih =>
    simp only [andThen, path_exchange_iff, ih]
    constructor
    · rintro ⟨s, _, rfl, t₁, t₂, b, rfl, h₁, h₂⟩
      exact ⟨.exchanged s (change s) :: t₁, t₂, b, rfl, ⟨s, t₁, rfl, h₁⟩, h₂⟩
    · rintro ⟨_, t₂, b, rfl, ⟨s, t₁, rfl, h₁⟩, h₂⟩
      exact ⟨s, t₁ ++ t₂, rfl, t₁, t₂, b, rfl, h₁, h₂⟩

theorem Path.bind {p : Process σ γ} {f : γ → Process σ β} {t₁ t₂ : List (Move σ)} {a : γ}
    (h₁ : p.Path t₁ a) (h₂ : (f a).Path t₂ v) : Path (p >>= f) (t₁ ++ t₂) v :=
  path_bind_iff.2 ⟨t₁, t₂, a, rfl, h₁, h₂⟩

@[simp]
theorem path_map_iff {p : Process σ γ} {f : γ → β} :
    Path (f <$> p) t v ↔ ∃ a, p.Path t a ∧ v = f a := by
  rw [← bind_pure_comp, path_bind_iff]
  constructor
  · rintro ⟨t₁, t₂, a, rfl, h, hp⟩
    obtain ⟨rfl, rfl⟩ := path_pure_iff.1 hp
    exact ⟨a, by simpa using h, rfl⟩
  · rintro ⟨a, h, rfl⟩
    exact ⟨t, [], a, by simp, h, path_pure_iff.2 ⟨rfl, rfl⟩⟩

/-! ## Paths of the shared value -/

section

variable {τ : Type} {part : σ → τ} {replace : σ → τ → σ}

@[simp]
theorem path_partExchange_iff {change : τ → τ} {x : τ} :
    Path ((partCell part replace).exchange change) t x ↔
      ∃ s, t = [.exchanged s (replace s (change (part s)))] ∧ x = part s := by
  show Path (.exchange _ _) t x ↔ _
  simp only [path_exchange_iff, path_done_iff]
  constructor
  · rintro ⟨s, _, rfl, rfl, rfl⟩
    exact ⟨s, rfl, rfl⟩
  · rintro ⟨s, rfl, rfl⟩
    exact ⟨s, [], rfl, rfl, rfl⟩

@[simp]
theorem path_partRead_iff {x : τ} :
    Path (partCell part replace).read t x ↔ ∃ s, t = [.exchanged s s] ∧ x = part s := by
  show Path (.exchange _ _) t x ↔ _
  simp only [path_exchange_iff, path_done_iff, id_eq]
  constructor
  · rintro ⟨s, _, rfl, rfl, rfl⟩
    exact ⟨s, rfl, rfl⟩
  · rintro ⟨s, rfl, rfl⟩
    exact ⟨s, [], rfl, rfl, rfl⟩

@[simp]
theorem path_partUpdate_iff {change : τ → τ} :
    Path ((partCell part replace).update change) t () ↔
      ∃ s, t = [.exchanged s (replace s (change (part s)))] := by
  simp only [Cell.update, bind_pure_comp, path_map_iff, path_partExchange_iff, and_true]
  exact ⟨fun ⟨_, s, h, _⟩ => ⟨s, h⟩, fun ⟨s, h⟩ => ⟨_, s, h, rfl⟩⟩

end

end Process

/-! ## Programs in operations -/

namespace Remote.Program

variable {m : Type → Type} [Monad m] [LawfulMonad m]

theorem runOn_andThen (h : Host m) (p : Program β) (f : β → Program γ) :
    (p.andThen f).runOn h = p.runOn h >>= fun b => (f b).runOn h := by
  induction p with
  | done value => simp [andThen, runOn]
  | call c next ih => simp [andThen, runOn, ih]
  | poll next ih => simp [andThen, runOn, ih]
  | settle millis next ih => simp [andThen, runOn, ih]
  | log entries next ih => simp [andThen, runOn, ih]

@[simp]
theorem runOn_bind (h : Host m) (p : Program β) (f : β → Program γ) :
    (p >>= f).runOn h = p.runOn h >>= fun b => (f b).runOn h := runOn_andThen h p f

omit [LawfulMonad m] in
@[simp]
theorem runOn_pure (h : Host m) (b : β) : (pure b : Program β).runOn h = pure b := rfl

end Remote.Program

namespace Process

open Remote.Program (request shutdownRaised settleFor write)

variable {t : List (Move σ)}

@[simp]
theorem path_request_iff {c : Call} {a : c.Answer} :
    Path ((request c).runOn host) t a ↔ t = [.answered c a] := by
  simp only [request, Program.runOn, host, bind_pure, path_call_iff, path_done_iff]
  constructor
  · rintro ⟨_, _, rfl, rfl, rfl⟩
    rfl
  · rintro rfl
    exact ⟨a, [], rfl, rfl, rfl⟩

@[simp]
theorem path_shutdownRaised_iff {b : Bool} :
    Path (shutdownRaised.runOn host) t b ↔ t = [.polled b] := by
  simp only [shutdownRaised, Program.runOn, host, bind_pure, path_poll_iff, path_done_iff]
  constructor
  · rintro ⟨_, _, rfl, rfl, rfl⟩
    rfl
  · rintro rfl
    exact ⟨b, [], rfl, rfl, rfl⟩

@[simp]
theorem path_settleFor_iff {millis : UInt64} {b : Bool} :
    Path ((settleFor millis).runOn host) t b ↔ t = [.settled b] := by
  simp only [settleFor, Program.runOn, host, bind_pure, path_settle_iff, path_done_iff]
  constructor
  · rintro ⟨_, _, rfl, rfl, rfl⟩
    rfl
  · rintro rfl
    exact ⟨b, [], rfl, rfl, rfl⟩

@[simp]
theorem runOn_write (entries : List Event) :
    (write entries).runOn (host : Host (Process σ)) = pure () := rfl

end Process

/-! ## Operations in progress -/

namespace Process

/-- What an operation did so far, and what is left of it. -/
inductive Run (p : Process σ β) : List (Move σ) → Process σ β → Prop
  | start : Run p [] p
  | step {q r : Process σ β} {t : List (Move σ)} {m : Move σ} (run : Run p t q)
      (step : q.Step m r) : Run p (t ++ [m]) r

theorem Run.path_append {p q : Process σ β} {t u : List (Move σ)} {v : β} (run : p.Run t q)
    (rest : q.Path u v) : p.Path (t ++ u) v := by
  induction run generalizing u with
  | start => exact rest
  | @step q r t m run step ih =>
    rw [List.append_assoc]
    exact ih (.step step rest)

/-- An operation that has come to its end took a path. -/
theorem Run.path {p : Process σ β} {t : List (Move σ)} {v : β} (run : p.Run t (.done v)) :
    p.Path t v := by
  simpa using run.path_append (.done v)

theorem Run.head {p q r : Process σ β} {m : Move σ} {t : List (Move σ)} (step : p.Step m q)
    (run : q.Run t r) : p.Run (m :: t) r := by
  induction run with
  | start => exact Run.start.step step
  | step _ last ih => exact ih.step last

theorem Path.run {p : Process σ β} {t : List (Move σ)} {v : β} (path : p.Path t v) :
    p.Run t (.done v) := by
  induction path with
  | done value => exact .start
  | step head _ ih => exact ih.head head

/-- What was in progress was in progress before. -/
theorem Run.of_append {p r : Process σ β} {t u : List (Move σ)} (run : p.Run (t ++ u) r) :
    ∃ q, p.Run t q := by
  generalize whole : t ++ u = tu at run
  induction run generalizing u with
  | start =>
    obtain ⟨rfl, _⟩ := List.append_eq_nil_iff.1 whole
    exact ⟨p, .start⟩
  | @step q r t' m run step ih =>
    rcases List.eq_nil_or_concat u with rfl | ⟨u, m', rfl⟩
    · rw [List.append_nil] at whole
      subst whole
      exact ⟨r, run.step step⟩
    · rw [List.concat_eq_append, ← List.append_assoc] at whole
      exact ih (List.append_inj' whole rfl).1

/-- The last step of an operation in progress. -/
theorem Run.concat {p r : Process σ β} {m : Move σ} {t : List (Move σ)} (run : p.Run (t ++ [m]) r) :
    ∃ q, p.Run t q ∧ q.Step m r := by
  generalize whole : t ++ [m] = u at run
  cases run with
  | start => simp at whole
  | @step q _ u m' run step =>
    obtain ⟨rfl, same⟩ := List.append_inj' whole rfl
    obtain rfl := List.singleton_inj.1 same
    exact ⟨q, run, step⟩

/-- What an operation was told determines what is left of it. -/
theorem Run.unique {p q q' : Process σ β} {t : List (Move σ)} (run : p.Run t q) (run' : p.Run t q') :
    q = q' := by
  induction run generalizing q' with
  | start =>
    generalize none : ([] : List (Move σ)) = u at run'
    cases run' with
    | start => rfl
    | step => simp at none
  | step _ step ih =>
    obtain ⟨_, earlier, last⟩ := run'.concat
    obtain rfl := ih earlier
    exact step.unique last

/-- Every operation can come to an end, whatever it is about. -/
theorem exists_path [Inhabited σ] (p : Process σ β) : ∃ t v, p.Path t v := by
  induction p with
  | done value => exact ⟨[], value, .done value⟩
  | call c next ih =>
    obtain ⟨t, v, path⟩ := ih (.error .interrupted)
    exact ⟨_, v, .step (.call c next _) path⟩
  | poll next ih =>
    obtain ⟨t, v, path⟩ := ih false
    exact ⟨_, v, .step (.poll next _) path⟩
  | settle millis next ih =>
    obtain ⟨t, v, path⟩ := ih false
    exact ⟨_, v, .step (.settle millis next _) path⟩
  | exchange change next ih =>
    obtain ⟨t, v, path⟩ := ih default
    exact ⟨_, v, .step (.exchange change next _) path⟩

theorem Run.exists_path [Inhabited σ] {p q : Process σ β} {t : List (Move σ)} (run : p.Run t q) :
    ∃ u v, p.Path (t ++ u) v := by
  obtain ⟨u, v, rest⟩ := q.exists_path
  exact ⟨u, v, run.path_append rest⟩

/-- An operation that has come to its end does nothing more. -/
theorem Path.ended [Inhabited σ] {p r : Process σ β} {t u : List (Move σ)} {v : β} (path : p.Path t v)
    (run : p.Run (t ++ u) r) : u = [] := by
  obtain ⟨w, v', longer⟩ := run.exists_path
  have same := (path.unique longer (List.prefix_append t (u ++ w)) (by simp)).1
  rw [List.append_assoc, List.self_eq_append_right] at same
  exact (List.append_eq_nil_iff.1 same).1

/-! ## Operations side by side -/

section

variable {ι : Type} [DecidableEq ι]

/-- The steps of one operation, among the steps of several. -/
def movesOf (a : ι) (T : List (ι × Move σ)) : List (Move σ) :=
  T.filterMap fun e => if e.1 = a then some e.2 else none

theorem movesOf_append (a : ι) (T U : List (ι × Move σ)) :
    movesOf a (T ++ U) = movesOf a T ++ movesOf a U := List.filterMap_append

theorem movesOf_cons_self (a : ι) (m : Move σ) (T : List (ι × Move σ)) :
    movesOf a ((a, m) :: T) = m :: movesOf a T := List.filterMap_cons_some (if_pos rfl)

theorem movesOf_cons_of_ne {a b : ι} (h : b ≠ a) (m : Move σ) (T : List (ι × Move σ)) :
    movesOf a ((b, m) :: T) = movesOf a T := List.filterMap_cons_none (if_neg h)

theorem movesOf_concat_self (a : ι) (T : List (ι × Move σ)) (m : Move σ) :
    movesOf a (T ++ [(a, m)]) = movesOf a T ++ [m] := by
  rw [movesOf_append, movesOf_cons_self]
  rfl

theorem movesOf_concat_of_ne {a b : ι} (h : b ≠ a) (T : List (ι × Move σ)) (m : Move σ) :
    movesOf a (T ++ [(b, m)]) = movesOf a T := by
  rw [movesOf_append, movesOf_cons_of_ne h]
  exact List.append_nil _

theorem mem_movesOf {a : ι} {m : Move σ} {T : List (ι × Move σ)} :
    m ∈ movesOf a T ↔ (a, m) ∈ T := by
  unfold movesOf
  rw [List.mem_filterMap]
  constructor
  · rintro ⟨⟨b, m'⟩, mem, found⟩
    obtain ⟨rfl, made⟩ := Option.ite_none_right_eq_some.1 found
    exact Option.some.inj made ▸ mem
  · exact fun mem => ⟨_, mem, if_pos rfl⟩

theorem movesOf_subset {a : ι} {T U : List (ι × Move σ)} (h : T ⊆ U) : movesOf a T ⊆ movesOf a U :=
  fun _ mem => mem_movesOf.2 (h (mem_movesOf.1 mem))

/-- Each step of one operation is made at some time. -/
theorem exists_of_movesOf {a : ι} {T : List (ι × Move σ)} {t u : List (Move σ)} {m : Move σ}
    (made : movesOf a T = t ++ m :: u) :
    ∃ before after, T = before ++ (a, m) :: after ∧ movesOf a before = t := by
  obtain ⟨T₁, T₂, rfl, first, second⟩ := List.filterMap_eq_append_iff.1 made
  obtain ⟨others, ⟨b, m'⟩, after, rfl, others', own, _⟩ := List.filterMap_eq_cons_iff.1 second
  obtain ⟨rfl, same⟩ := Option.ite_none_right_eq_some.1 own
  obtain rfl : m' = m := Option.some.inj same
  refine ⟨T₁ ++ others, after, by simp, ?_⟩
  rw [movesOf_append, show movesOf b others = [] from List.filterMap_eq_nil_iff.2 others',
    List.append_nil]
  exact first

end

end Process

/-- As far as `f` tells, the shared value is `x` at first, each replacement finds what the one before
left, and `y` is left at last. -/
def Chain {τ : Type} (f : σ → τ) : List (Move σ) → τ → τ → Prop
  | [], x, y => x = y
  | .exchanged before after :: t, x, y => f before = x ∧ Chain f t (f after) y
  | .answered _ _ :: t, x, y => Chain f t x y
  | .polled _ :: t, x, y => Chain f t x y
  | .settled _ :: t, x, y => Chain f t x y

section

variable {τ : Type} {f : σ → τ}

theorem chain_append_iff {t u : List (Move σ)} {x y : τ} :
    Chain f (t ++ u) x y ↔ ∃ z, Chain f t x z ∧ Chain f u z y := by
  induction t generalizing x with
  | nil => simp [Chain]
  | cons m t ih =>
    cases m with
    | answered | polled | settled => exact ih
    | exchanged before after =>
      simp only [List.cons_append, Chain, ih]
      constructor
      · rintro ⟨hx, z, ht, hu⟩
        exact ⟨z, ⟨hx, ht⟩, hu⟩
      · rintro ⟨z, ⟨hx, ht⟩, hu⟩
        exact ⟨hx, z, ht, hu⟩

end

namespace Process

/-- No replacement changes what `f` tells of the shared value. -/
def Keeps {τ : Type} (f : σ → τ) : Process σ β → Prop
  | done _ => True
  | call _ next => ∀ answer, (next answer).Keeps f
  | poll next => ∀ raised, (next raised).Keeps f
  | settle _ next => ∀ raised, (next raised).Keeps f
  | exchange change next => ∀ s, f (change s) = f s ∧ (next s).Keeps f

section

variable {τ : Type} {f : σ → τ}

theorem Keeps.step {p q : Process σ β} {m : Move σ} (h : p.Keeps f) (step : p.Step m q) :
    q.Keeps f := by
  cases step with
  | call c next answer => exact h answer
  | poll next raised => exact h raised
  | settle millis next raised => exact h raised
  | exchange change next s => exact (h s).2

theorem Keeps.exchanged {p q : Process σ β} {before after : σ} (h : p.Keeps f)
    (step : p.Step (.exchanged before after) q) : f after = f before := by
  cases step
  exact (h before).1

theorem Keeps.run {p q : Process σ β} {t : List (Move σ)} (h : p.Keeps f) (run : p.Run t q) :
    q.Keeps f := by
  induction run with
  | start => exact h
  | step _ step ih => exact ih.step step

theorem keeps_pure (v : β) : (pure v : Process σ β).Keeps f := trivial

theorem keeps_bind {p : Process σ γ} {g : γ → Process σ β} (h : p.Keeps f)
    (hg : ∀ v, (g v).Keeps f) : (p >>= g).Keeps f := by
  show (p.andThen g).Keeps f
  induction p with
  | done value => exact hg value
  | call c next ih => exact fun answer => ih answer (h answer)
  | poll next ih => exact fun raised => ih raised (h raised)
  | settle millis next ih => exact fun raised => ih raised (h raised)
  | exchange change next ih => exact fun s => ⟨(h s).1, ih s (h s).2⟩

/-- A program does not touch the shared value. -/
theorem keeps_runOn (p : Program β) : (p.runOn (host : Host (Process σ))).Keeps f := by
  induction p with
  | done value => exact trivial
  | call c next ih => exact keeps_bind (fun _ => trivial) ih
  | poll next ih => exact keeps_bind (fun _ => trivial) ih
  | settle millis next ih => exact keeps_bind (fun _ => trivial) ih
  | log entries next ih => exact keeps_bind trivial fun _ => ih

theorem keeps_partExchange {ρ : Type} {part : σ → ρ} {replace : σ → ρ → σ} {change : ρ → ρ}
    (h : ∀ s, f (replace s (change (part s))) = f s) :
    ((partCell part replace).exchange change).Keeps f := fun s => ⟨h s, trivial⟩

theorem keeps_partRead {ρ : Type} {part : σ → ρ} {replace : σ → ρ → σ} :
    (partCell part replace).read.Keeps f := fun _ => ⟨rfl, trivial⟩

theorem keeps_partUpdate {ρ : Type} {part : σ → ρ} {replace : σ → ρ → σ} {change : ρ → ρ}
    (h : ∀ s, f (replace s (change (part s))) = f s) :
    ((partCell part replace).update change).Keeps f :=
  keeps_bind (keeps_partExchange h) fun _ => trivial

end

end Process

end MapBallot
