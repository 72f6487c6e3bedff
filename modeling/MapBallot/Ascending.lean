/-!
# `MapBallot.Ascending` — ascending lists with one entry for each key

Both the play history and a scored catalog hold at most one entry for each key, in ascending order
of the keys, and of several entries with one key the earliest counts. The key is given by a strict
order on the entries: two entries have one key if neither comes before the other.

## Contents

* `place` — one more entry, unless its key is there already;
* `arrange` — the entries of a list, each key once;
* `pairwise_place`, `pairwise_arrange` — the result is strictly ascending;
* `mem_of_mem_arrange` — nothing is added to it; `exists_mem_arrange` — no key is lost;
* `arrange_eq_self` — an ascending list is arranged already.
-/

namespace MapBallot.Ascending

variable {α : Type}

/-- Adds an entry to an ascending list, unless an entry with its key is there already. -/
def place (lt : α → α → Bool) (a : α) : List α → List α
  | [] => [a]
  | b :: bs =>
    if lt a b then a :: b :: bs
    else if lt b a then b :: place lt a bs
    else b :: bs

/-- The entries of a list in ascending order; of several with one key only the first is kept. -/
def arrange (lt : α → α → Bool) (as : List α) : List α :=
  as.foldl (fun bs a => place lt a bs) []

theorem mem_of_mem_place {lt : α → α → Bool} {a x : α} {bs : List α} (h : x ∈ place lt a bs) :
    x = a ∨ x ∈ bs := by
  induction bs with
  | nil => simpa [place] using h
  | cons b bs ih =>
    rw [place] at h
    split at h
    · simpa using h
    · split at h
      · rcases List.mem_cons.1 h with rfl | h
        · exact .inr List.mem_cons_self
        · rcases ih h with rfl | h
          · exact .inl rfl
          · exact .inr (List.mem_cons_of_mem _ h)
      · exact .inr h

theorem pairwise_place {lt : α → α → Bool} (trans : ∀ a b c, lt a b → lt b c → lt a c) {a : α}
    {bs : List α} (h : bs.Pairwise fun x y => lt x y) :
    (place lt a bs).Pairwise fun x y => lt x y := by
  induction bs with
  | nil => simp [place]
  | cons b bs ih =>
    obtain ⟨hb, hbs⟩ := List.pairwise_cons.1 h
    rw [place]
    split
    · rename_i hab
      refine List.pairwise_cons.2 ⟨fun x hx => ?_, h⟩
      rcases List.mem_cons.1 hx with rfl | hx
      · exact hab
      · exact trans _ _ _ hab (hb x hx)
    · split
      · rename_i hba
        refine List.pairwise_cons.2 ⟨fun x hx => ?_, ih hbs⟩
        rcases mem_of_mem_place hx with rfl | hx
        · exact hba
        · exact hb x hx
      · exact h

theorem pairwise_arrange {lt : α → α → Bool} (trans : ∀ a b c, lt a b → lt b c → lt a c)
    (as : List α) : (arrange lt as).Pairwise fun x y => lt x y := by
  suffices ∀ bs : List α, bs.Pairwise (fun x y => lt x y) →
      (as.foldl (fun bs a => place lt a bs) bs).Pairwise fun x y => lt x y from this [] .nil
  induction as with
  | nil => exact fun _ h => h
  | cons a as ih => exact fun bs h => ih _ (pairwise_place trans h)

theorem mem_of_mem_arrange {lt : α → α → Bool} {as : List α} {x : α} (h : x ∈ arrange lt as) :
    x ∈ as := by
  suffices ∀ bs : List α, x ∈ as.foldl (fun bs a => place lt a bs) bs → x ∈ as ∨ x ∈ bs by
    simpa using this [] h
  clear h
  induction as with
  | nil => exact fun bs h => .inr h
  | cons a as ih =>
    intro bs h
    rcases ih _ h with has | hp
    · exact .inl (List.mem_cons_of_mem a has)
    · rcases mem_of_mem_place hp with rfl | hbs
      · exact .inl List.mem_cons_self
      · exact .inr hbs

theorem mem_place_of_mem {lt : α → α → Bool} {a x : α} {bs : List α} (h : x ∈ bs) :
    x ∈ place lt a bs := by
  induction bs with
  | nil => cases h
  | cons b bs ih =>
    rw [place]
    split
    · exact List.mem_cons_of_mem a h
    · split
      · rcases List.mem_cons.1 h with rfl | h
        · exact List.mem_cons_self
        · exact List.mem_cons_of_mem b (ih h)
      · exact h

/-- An entry, or another one with its key, is there once it was added. -/
theorem exists_mem_place (lt : α → α → Bool) (a : α) (bs : List α) :
    ∃ x ∈ place lt a bs, x = a ∨ (lt a x = false ∧ lt x a = false) := by
  induction bs with
  | nil => exact ⟨a, List.mem_cons_self, .inl rfl⟩
  | cons b bs ih =>
    rw [place]
    split
    · exact ⟨a, List.mem_cons_self, .inl rfl⟩
    · rename_i hab
      split
      · obtain ⟨x, hx, key⟩ := ih
        exact ⟨x, List.mem_cons_of_mem b hx, key⟩
      · rename_i hba
        exact ⟨b, List.mem_cons_self, .inr ⟨by simpa using hab, by simpa using hba⟩⟩

/-- No key is lost. -/
theorem exists_mem_arrange {lt : α → α → Bool} {as : List α} {a : α} (h : a ∈ as) :
    ∃ x ∈ arrange lt as, x = a ∨ (lt a x = false ∧ lt x a = false) := by
  have kept : ∀ (as bs : List α) (x : α), x ∈ bs →
      x ∈ as.foldl (fun bs a => place lt a bs) bs := by
    intro as
    induction as with
    | nil => exact fun _ _ h => h
    | cons a as ih => exact fun bs x h => ih _ x (mem_place_of_mem h)
  suffices ∀ bs : List α, ∃ x ∈ as.foldl (fun bs a => place lt a bs) bs,
      x = a ∨ (lt a x = false ∧ lt x a = false) from this []
  induction as with
  | nil => cases h
  | cons b as ih =>
    intro bs
    rcases List.mem_cons.1 h with rfl | h
    · obtain ⟨x, hx, key⟩ := exists_mem_place lt a bs
      exact ⟨x, kept as _ x hx, key⟩
    · exact ih h _

theorem place_eq_append {lt : α → α → Bool} {a : α} {bs : List α}
    (h : ∀ b ∈ bs, lt b a = true ∧ lt a b = false) :
    place lt a bs = bs ++ [a] := by
  induction bs with
  | nil => rfl
  | cons b bs ih =>
    obtain ⟨⟨hba, hab⟩, hbs⟩ := List.forall_mem_cons.1 h
    rw [place, if_neg (by simp [hab]), if_pos hba, ih hbs, List.cons_append]

/-- An ascending list is arranged already. -/
theorem arrange_eq_self {lt : α → α → Bool} (asymm : ∀ a b, lt a b = true → lt b a = false)
    {as : List α} (h : as.Pairwise fun a b => lt a b = true) : arrange lt as = as := by
  -- The induction is over what was placed so far.
  suffices ∀ bs : List α, (bs ++ as).Pairwise (fun a b => lt a b = true) →
      as.foldl (fun bs a => place lt a bs) bs = bs ++ as from this [] h
  clear h
  induction as with
  | nil =>
    intro bs _
    exact (List.append_nil bs).symm
  | cons a as ih =>
    intro bs h
    have before : ∀ b ∈ bs, lt b a = true :=
      fun b hb => (List.pairwise_append.1 h).2.2 b hb a List.mem_cons_self
    rw [List.foldl_cons, place_eq_append fun b hb => ⟨before b hb, asymm b a (before b hb)⟩,
      ih (bs ++ [a]) (by rwa [List.append_assoc]), List.append_assoc]
    rfl

end MapBallot.Ascending
