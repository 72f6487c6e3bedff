import MapBallot.Proofs.Swap.Midway

/-!
# `MapBallot.Proofs.Swap.Preview` — a preview shows what a cycle does

A preview and a cycle read and select by one and the same program. A preview stops there. So it calls
nothing but three reads, and where both find the same state and are told the same, the cycle selects
what the preview showed, or fails to select for the reason that the preview gave.

## Contents

* `AnsweredBy`, `Path.eq_of_answeredBy` — two operations that are told the same;
  `Process.exists_path_answeredBy` — every operation comes to an end, whatever it is told;
* `Preparation.calls`, `OnlyLooks`, `preview_reads` — a preview only reads, and leaves the state as it is;
  `exists_preparation` — it comes to an answer;
* `Realizes`, `Preparation.realizes`, `preview_realized` — what a cycle does, by what a preview has shown.
-/

namespace MapBallot

open Remote (Call)

variable {σ β : Type}

/-! ## Operations that are told the same -/

/-- Each call is answered as `f` answers it after the calls before it. -/
def AnsweredBy (f : List Call → (c : Call) → c.Answer) : List Call → List (Move σ) → Prop
  | _, [] => True
  | past, .answered c answer :: t => answer = f past c ∧ AnsweredBy f (past ++ [c]) t
  | past, .polled _ :: t => AnsweredBy f past t
  | past, .settled _ :: t => AnsweredBy f past t
  | past, .exchanged _ _ :: t => AnsweredBy f past t

theorem AnsweredBy.of_append {f : List Call → (c : Call) → c.Answer} {past : List Call}
    {t u : List (Move σ)} (h : AnsweredBy f past (t ++ u)) : AnsweredBy f past t := by
  induction t generalizing past with
  | nil => trivial
  | cons m t ih =>
    cases m with
    | answered c answer => exact ⟨h.1, ih h.2⟩
    | polled | settled | exchanged => exact ih (show AnsweredBy f past (t ++ u) from h)

/-- An operation that only makes calls is determined by how they are answered. -/
theorem Process.Path.eq_of_answeredBy {f : List Call → (c : Call) → c.Answer} {p : Process σ β}
    {t t' : List (Move σ)} {v v' : β} {past : List Call} (h : p.Path t v) (h' : p.Path t' v')
    (calls : ∀ m ∈ t, ∃ c answer, m = .answered c answer) (told : AnsweredBy f past t)
    (told' : AnsweredBy f past t') : t = t' ∧ v = v' := by
  induction h generalizing t' past with
  | done value =>
    obtain ⟨rfl, rfl⟩ := path_done_iff.1 h'
    exact ⟨rfl, rfl⟩
  | @step p q m t value head tail ih =>
    obtain ⟨⟨c, answer, rfl⟩, later⟩ := List.forall_mem_cons.1 calls
    cases head with
    | call c next =>
      obtain ⟨answer', t', rfl, tail'⟩ := path_call_iff.1 h'
      obtain ⟨rfl, told⟩ := told
      obtain ⟨rfl, told'⟩ := told'
      obtain ⟨rfl, rfl⟩ := ih tail' later told told'
      exact ⟨rfl, rfl⟩

/-- Every operation comes to an end, however its calls are answered and whatever it finds. -/
theorem Process.exists_path_answeredBy (f : List Call → (c : Call) → c.Answer) (s : σ)
    (p : Process σ β) (past : List Call) : ∃ t v, p.Path t v ∧ AnsweredBy f past t := by
  induction p generalizing past with
  | done value => exact ⟨[], value, .done value, trivial⟩
  | call c next ih =>
    obtain ⟨t, v, path, told⟩ := ih (f past c) (past ++ [c])
    exact ⟨_, v, .step (.call c next _) path, rfl, told⟩
  | poll next ih =>
    obtain ⟨t, v, path, told⟩ := ih false past
    exact ⟨_, v, .step (.poll next _) path, told⟩
  | settle millis next ih =>
    obtain ⟨t, v, path, told⟩ := ih false past
    exact ⟨_, v, .step (.settle millis next _) path, told⟩
  | exchange change next ih =>
    obtain ⟨t, v, path, told⟩ := ih s past
    exact ⟨_, v, .step (.exchange change next s) path, told⟩

namespace Swap

open Process (Path host)

variable {α : Type} [Scalar α] {input : Input α} {settings : Settings} {stream : RandomStream}

/-! ## A preview only reads -/

/-- What is called, one after the other. -/
def callsOf (t : List (Move σ)) : List Call := (answers t).map Sigma.fst

@[simp]
theorem callsOf_append (t u : List (Move σ)) : callsOf (t ++ u) = callsOf t ++ callsOf u := by
  simp [callsOf]

theorem mem_callsOf {t : List (Move σ)} {c : Call} {answer : c.Answer}
    (mem : .answered c answer ∈ t) : c ∈ callsOf t :=
  List.mem_map.2 ⟨⟨c, answer⟩, List.mem_filterMap.2 ⟨_, mem, rfl⟩, rfl⟩

theorem callsOf_answered (c : Call) (answer : c.Answer) (t : List (Move σ)) :
    callsOf (.answered c answer :: t) = c :: callsOf t := rfl

/-- What a preview may call, in this order. -/
def previewCalls : List Call := [.catalog, .settings, .getWhitelist]

theorem Guided.calls {gs : List Beat} {plan : Plan} {policy : Policy}
    (h : Guided settings gs plan policy) : (callsOf (gs.map (Beat.move (σ := σ)))).Sublist [.settings] := by
  cases h with
  | own => exact List.nil_sublist _
  | remote => exact List.Sublist.refl _

theorem Anchored.calls {purpose : Purpose} {retained : Option Remote.Whitelist} {ws : List Beat}
    {w : Remote.Whitelist} (h : Anchored purpose retained ws w) :
    (callsOf (ws.map (Beat.move (σ := σ)))).Sublist [.getWhitelist] := by
  cases h with
  | kept => exact List.nil_sublist _
  | read => exact List.Sublist.refl _

/-- Reading and selecting reads the catalog, the settings and the whitelist, each at most once. -/
theorem Preparation.calls {retained : Option Remote.Whitelist} {reads : List Beat}
    {r : Except PrepareError (Selection α) × RandomStream}
    (h : Preparation input settings retained stream reads r) :
    (callsOf (reads.map (Beat.move (σ := σ)))).Sublist previewCalls := by
  cases h with
  | catalogFailed | catalogEmpty => exact List.Sublist.cons_cons _ (List.nil_sublist _)
  | catalogListed _ drawing =>
    rw [List.map_cons, Beat.move, callsOf_answered]
    refine List.Sublist.cons_cons _ ?_
    cases drawing with
    | guidanceFailed => exact List.Sublist.cons_cons _ (List.nil_sublist _)
    | boundFailed guided =>
      rw [List.map_append, callsOf_append]
      exact guided.calls.append (List.Sublist.refl [Call.getWhitelist])
    | chosen guided bounded =>
      rw [List.map_append, callsOf_append]
      exact guided.calls.append bounded.calls

/-- Reading is nothing but calls. -/
theorem OnlyReads.answered {bs : List Beat} (h : OnlyReads bs) :
    ∀ m ∈ bs.map (Beat.move (σ := σ)), ∃ c answer, m = .answered c answer := by
  intro m mem
  obtain ⟨b, hb, rfl⟩ := List.mem_map.1 mem
  cases b with
  | call _ c answer => exact ⟨c, answer, rfl⟩
  | poll | settle => cases h _ hb

/-- The step makes a call that a preview may make, or leaves the shared value as it is. -/
def Harmless : Move σ → Prop
  | .answered c _ => c ∈ previewCalls
  | .exchanged s s' => s' = s
  | _ => False

/-- What an operation does that only looks at the shared value and reads from the remote tool. -/
structure OnlyLooks (t : List (Move σ)) : Prop where
  calls : (callsOf t).Sublist previewCalls
  harmless : ∀ m ∈ t, Harmless m

theorem OnlyLooks.look {t : List (Move σ)} (h : OnlyLooks t) (s : σ) :
    OnlyLooks (.exchanged s s :: t) :=
  ⟨h.calls, List.forall_mem_cons.2 ⟨rfl, h.harmless⟩⟩

/-- Looking, reading and selecting only looks. -/
theorem onlyLooks_reads {retained : Option Remote.Whitelist} {reads : List Beat}
    {r : Except PrepareError (Selection α) × RandomStream}
    (preparation : Preparation input settings retained stream reads r) (s : σ) :
    OnlyLooks (.exchanged s s :: reads.map Beat.move) := by
  have calls := preparation.calls (σ := σ)
  refine OnlyLooks.look ⟨calls, fun m mem => ?_⟩ s
  obtain ⟨c, answer, rfl⟩ := preparation.onlyReads.answered m mem
  exact calls.subset (mem_callsOf mem)

/-- **A preview calls the catalog, the settings and the whitelist**, each at most once and in this order,
and changes nothing. -/
theorem preview_reads {part : σ → State} {replace : σ → State → σ} {t : List (Move σ)}
    {r : Except PrepareError (Selection α)}
    (path : Path (preview host (Process.partCell part replace) input settings stream) t r) :
    OnlyLooks t := by
  obtain ⟨s, reads, _, rfl, preparation⟩ := path_preview_iff.1 path
  exact onlyLooks_reads preparation s

/-- Reading and selecting comes to an end, however the calls are answered. -/
theorem exists_preparation (input : Input α) (settings : Settings) (retained : Option Remote.Whitelist)
    (stream : RandomStream) (f : List Call → (c : Call) → c.Answer) (s : σ) :
    ∃ reads r rest, Preparation input settings retained stream reads (r, rest) ∧
      AnsweredBy f [] (reads.map (Beat.move (σ := σ))) := by
  obtain ⟨t, ⟨r, rest⟩, path, told⟩ := Process.exists_path_answeredBy f s
    ((prepare input settings retained stream).runOn host) []
  obtain ⟨reads, rfl, preparation⟩ := path_prepare_iff.1 path
  exact ⟨reads, r, rest, preparation, told⟩

/-! ## What a cycle does that is told the same -/

/-- What a cycle with the steps `u` does, by what selecting comes to in the state that it found. -/
inductive Realizes (found : State) (u : List (Move σ)) :
    Except PrepareError (Selection α) → Except Busy (Report α) → Prop
  /-- Another cycle was in progress. -/
  | refused (r : Except PrepareError (Selection α)) (busy : found.busy = true) (put : puts u = []) :
      Realizes found u r (.error .busy)
  /-- The cycle reports why nothing was selected. -/
  | failed {e : PrepareError} {report : Report α} (told : report.outcome = .selectionFailed e)
      (put : puts u = []) : Realizes found u (.error e) (.ok report)
  /-- The whitelist to restore could not be read. -/
  | unanchored (selection : Selection α) {e : Remote.CallError} {report : Report α}
      (told : report.outcome = .snapshotFailed e) (put : puts u = []) :
      Realizes found u (.ok selection) (.ok report)
  /-- A shutdown was asked for before the selection was put on the whitelist. -/
  | stopped (selection : Selection α) (original : List String) {report : Report α}
      {result : Except (Phase × Remote.CallError) Unit} {restored : Except Remote.CallError Unit}
      (told : report.outcome = .ofRestore selection result restored)
      (raised : (looks u).head? = some true) (put : puts u = [original]) :
      Realizes found u (.ok selection) (.ok report)
  /-- The cycle puts the selection on the whitelist, and afterwards what was there. -/
  | applied {selection : Selection α} (original : List String) {report : Report α}
      {result : Except (Phase × Remote.CallError) Unit} {restored : Except Remote.CallError Unit}
      (told : report.outcome = .ofRestore selection result restored)
      (put : puts u = [selection.layerIds, original]) : Realizes found u (.ok selection) (.ok report)

omit [Scalar α] in
/-- Replacing the shared value makes no difference to what is called. -/
theorem Realizes.exchanged {found : State} {u : List (Move σ)}
    {r : Except PrepareError (Selection α)} {answer : Except Busy (Report α)}
    (h : Realizes found u r answer) (s s' : σ) : Realizes found (.exchanged s s' :: u) r answer := by
  cases h with
  | refused r busy put => exact .refused r busy put
  | failed told put => exact .failed told put
  | unanchored selection told put => exact .unanchored selection told put
  | stopped selection original told raised put => exact .stopped selection original told raised put
  | applied original told put => exact .applied original told put

omit [Scalar α] in
/-- The steps forward begin with a look for a shutdown; without one they apply the selection. -/
theorem Forward.applies {selection : Selection α} {steps : List Beat}
    {result : Except (Phase × Remote.CallError) Unit} (h : Forward selection steps result) :
    ((looks (steps.map (Beat.move (σ := σ)))).head? = some true ∧
      Swap.puts (steps.map (Beat.move (σ := σ))) = []) ∨
      Swap.puts (steps.map (Beat.move (σ := σ))) = [selection.layerIds] := by
  rcases h with _ | e | ⟨_ | e | _⟩
  · exact .inl ⟨rfl, rfl⟩
  all_goals exact .inr rfl

/-- Reading does not look for a shutdown. -/
theorem OnlyReads.looks_eq {bs : List Beat} (h : OnlyReads bs) :
    looks (bs.map (Beat.move (σ := σ))) = [] := by
  refine List.filterMap_eq_nil_iff.2 fun m mem => ?_
  obtain ⟨_, _, rfl⟩ := h.answered m mem
  rfl

/-- Every course begins with reading and selecting, and does what that came to. -/
theorem Course.begins {retained : Option Remote.Whitelist} {bs : List Beat} {ending : Ending α}
    {report : Report α} (h : Course input settings retained stream bs ending)
    (told : report.outcome = ending.outcome) {tail : List (Move σ)} (quiet : puts tail = []) :
    ∃ reads r rest, reads <+: bs ∧ Preparation input settings retained stream reads (r, rest) ∧
      ∀ found, Realizes found (bs.map Beat.move ++ tail) r (.ok report) := by
  cases h with
  | unprepared preparation =>
    refine ⟨_, _, _, List.prefix_refl _, preparation, fun _ => .failed told ?_⟩
    rw [puts_append, preparation.onlyReads.puts_eq, quiet]
    rfl
  | unanchored preparation _ e =>
    refine ⟨_, _, _, List.prefix_append _ _, preparation, fun _ => .unanchored _ told ?_⟩
    rw [List.map_append, puts_append, puts_append, preparation.onlyReads.puts_eq, quiet]
    rfl
  | @swapped reads snap steps selection _ w _ preparation anchored forward answer =>
    have only : OnlyReads (reads ++ snap) :=
      onlyReads_append_iff.2 ⟨preparation.onlyReads, anchored.onlyReads⟩
    refine ⟨reads, _, _, ?_, preparation, fun _ => ?_⟩
    · rw [List.append_assoc, List.append_assoc]
      exact List.prefix_append _ _
    rw [List.map_append, List.map_append, List.append_assoc, List.append_assoc]
    -- The first look for a shutdown comes after all reads, so it is the one before applying.
    rcases forward.applies (σ := σ) with ⟨raised, put⟩ | put
    · refine .stopped selection w.layerIds told ?_ ?_
      · rw [looks_append, only.looks_eq, looks_append, List.nil_append, List.head?_append, raised]
        rfl
      · rw [puts_append, only.puts_eq, puts_append, put, puts_append, quiet]
        rfl
    · refine .applied w.layerIds told ?_
      rw [puts_append, only.puts_eq, puts_append, put, puts_append, quiet]
      rfl

/-- **A course does what reading and selecting came to**, if that was told the same. -/
theorem Preparation.realizes {retained : Option Remote.Whitelist} {reads bs : List Beat}
    {r : Except PrepareError (Selection α)} {rest : RandomStream} {ending : Ending α}
    {report : Report α} {f : List Call → (c : Call) → c.Answer}
    (h : Preparation input settings retained stream reads (r, rest))
    (course : Course input settings retained stream bs ending)
    (told : report.outcome = ending.outcome) (found : State) {tail : List (Move σ)}
    (quiet : puts tail = []) (same : AnsweredBy f [] (reads.map (Beat.move (σ := σ))))
    (same' : AnsweredBy f [] (bs.map Beat.move ++ tail)) :
    Realizes found (bs.map Beat.move ++ tail) r (.ok report) := by
  obtain ⟨reads', r', rest', ⟨later, rfl⟩, preparation, realizes⟩ := course.begins told quiet
  -- Both read by the same program, and are told the same.
  have same' := same'.of_append
  rw [List.map_append] at same'
  obtain ⟨_, answers⟩ := (path_prepare_iff.2 ⟨reads, rfl, h⟩).eq_of_answeredBy
    (path_prepare_iff.2 ⟨reads', rfl, preparation⟩) h.onlyReads.answered same same'.of_append
  obtain ⟨rfl, _⟩ := Prod.mk.inj answers
  exact realizes found

/-- **A cycle does what a preview has shown**, where both find the same state and are told the same. -/
theorem preview_realized {part : σ → State} {replace : σ → State → σ} {t u : List (Move σ)}
    {r : Except PrepareError (Selection α)} {answer : Except Busy (Report α)}
    (shown : Path (preview host (Process.partCell part replace) input settings stream) t r)
    (run : Path (runExclusive host (Process.partCell part replace) input settings stream) u answer) :
    ∃ s x y reads steps, t = .exchanged s s :: reads ∧ u = .exchanged x y :: steps ∧
      ∀ f, part s = part x → AnsweredBy f [] t → AnsweredBy f [] u →
        Realizes (part x) u r answer := by
  obtain ⟨s, reads, rest, rfl, preparation⟩ := path_preview_iff.1 shown
  rcases path_runExclusive_iff.1 run with
    ⟨x, busy, rfl, rfl⟩ | ⟨x, bs, ending, kept, seen, left, _, course, rfl, rfl⟩
  · exact ⟨s, x, _, _, _, rfl, rfl, fun _ _ _ _ => .refused r busy rfl⟩
  · refine ⟨s, x, _, _, _, rfl, rfl, fun f found told told' => ?_⟩
    rw [found] at preparation
    exact (preparation.realizes course rfl (part x) rfl told told').exchanged x _

end Swap

end MapBallot
