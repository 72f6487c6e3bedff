import Mathlib.Data.List.Destutter
import Mathlib.Data.List.Sort
import MapBallot.Ascending

/-!
# `MapBallot.Proofs.Ascending` — the first entry of each key

Arranging a list leaves one entry for each key, and this module says which one: the first of the list.
The same entries are left when the list is sorted by a stable sort and each entry with the key of its
neighbour before it is dropped.

## Contents

* `sameKey`, `ByKey` — entries with one key, and orders that compare keys;
* `mem_place_iff`, `mem_arrange_iff` — an arranged list has the first entry of each key;
* `filter_mergeSort`, `find?_mergeSort` — a stable sort does not change which entry is the first;
* `mem_destutter'_iff`, `destutter_mergeSort` — sorting and dropping repetitions is arranging.
-/

namespace MapBallot.Ascending

variable {α : Type} {lt : α → α → Bool}

/-- Neither entry comes before the other. -/
def sameKey (lt : α → α → Bool) (a b : α) : Bool := !lt a b && !lt b a

/-- The order compares entries by their keys. -/
structure ByKey (lt : α → α → Bool) : Prop where
  asymm : ∀ a b, lt a b = true → lt b a = false
  /-- Whatever comes between two entries in order is in order with one of them. -/
  between : ∀ a b c, lt a c = true → lt a b = true ∨ lt b c = true

theorem sameKey_eq_true_iff {a b : α} : sameKey lt a b = true ↔ lt a b = false ∧ lt b a = false := by
  simp [sameKey]

theorem sameKey_eq_false_iff {a b : α} : sameKey lt a b = false ↔ lt a b = true ∨ lt b a = true := by
  unfold sameKey
  cases lt a b <;> cases lt b a <;> simp

theorem sameKey_comm (a b : α) : sameKey lt a b = sameKey lt b a := Bool.and_comm _ _

namespace ByKey

variable {a b c : α}

theorem irrefl (h : ByKey lt) (a : α) : lt a a = false := by
  cases self : lt a a with
  | false => rfl
  | true => exact self.symm.trans (h.asymm a a self)

theorem sameKey_self (h : ByKey lt) (a : α) : sameKey lt a a = true :=
  sameKey_eq_true_iff.2 ⟨h.irrefl a, h.irrefl a⟩

theorem trans (h : ByKey lt) (hab : lt a b = true) (hbc : lt b c = true) : lt a c = true := by
  rcases h.between a c b hab with hac | hcb
  · exact hac
  · exact absurd (hcb.symm.trans (h.asymm b c hbc)) (by decide)

theorem lt_of_lt_of_not_lt (h : ByKey lt) (hab : lt a b = true) (hcb : lt c b = false) :
    lt a c = true := by
  rcases h.between a c b hab with hac | later
  · exact hac
  · exact absurd (later.symm.trans hcb) (by decide)

/-- Entries with one key are in the same order with every other entry. -/
theorem sameKey_congr (h : ByKey lt) (same : sameKey lt a b = true) (c : α) :
    sameKey lt c a = sameKey lt c b := by
  have half : ∀ {a b : α}, sameKey lt a b = true → sameKey lt c a = true → sameKey lt c b = true := by
    intro a b hab hca
    obtain ⟨notBefore, notAfter⟩ := sameKey_eq_true_iff.1 hab
    obtain ⟨notBefore', notAfter'⟩ := sameKey_eq_true_iff.1 hca
    refine sameKey_eq_true_iff.2 ⟨?_, ?_⟩
    · refine Bool.eq_false_iff.2 fun hcb => ?_
      rcases h.between c a b hcb with hca | hab
      · exact absurd (hca.symm.trans notBefore') (by decide)
      · exact absurd (hab.symm.trans notBefore) (by decide)
    · refine Bool.eq_false_iff.2 fun hbc => ?_
      rcases h.between b a c hbc with hba | hac
      · exact absurd (hba.symm.trans notAfter) (by decide)
      · exact absurd (hac.symm.trans notAfter') (by decide)
  exact Bool.eq_iff_iff.2 ⟨half same, half ((sameKey_comm b a).trans same)⟩

/-- Ascending lists with the same entries are equal. -/
theorem eq_of_mem_iff (h : ByKey lt) {as bs : List α} (ha : as.Pairwise fun a b => lt a b = true)
    (hb : bs.Pairwise fun a b => lt a b = true) (same : ∀ a, a ∈ as ↔ a ∈ bs) : as = bs := by
  have : Std.Irrefl fun a b => lt a b = true := ⟨fun a => by simp [h.irrefl a]⟩
  have : Std.Antisymm fun a b => lt a b = true :=
    ⟨fun a b hab hba => absurd (hba.symm.trans (h.asymm a b hab)) (by decide)⟩
  exact ha.eq_of_mem_iff hb same

end ByKey

/-! ## Arranged lists -/

/-- An entry is added if none with its key is there. -/
theorem mem_place_iff (h : ByKey lt) {a x : α} {bs : List α}
    (ascending : bs.Pairwise fun a b => lt a b = true) :
    x ∈ place lt a bs ↔ x ∈ bs ∨ (x = a ∧ ∀ b ∈ bs, sameKey lt a b = false) := by
  induction bs with
  | nil => simp [place]
  | cons b bs ih =>
    obtain ⟨first, later⟩ := List.pairwise_cons.1 ascending
    unfold place
    by_cases before : lt a b = true
    · -- Everything that is there comes after the new entry.
      have apart : ∀ c ∈ b :: bs, sameKey lt a c = false := by
        intro c hc
        refine sameKey_eq_false_iff.2 (.inl ?_)
        rcases List.mem_cons.1 hc with rfl | hc
        · exact before
        · exact h.trans before (first c hc)
      rw [if_pos before, List.mem_cons]
      constructor
      · rintro (rfl | old)
        · exact .inr ⟨rfl, apart⟩
        · exact .inl old
      · rintro (old | ⟨rfl, _⟩)
        · exact .inr old
        · exact .inl rfl
    rw [if_neg before]
    by_cases after : lt b a = true
    · have apart : sameKey lt a b = false := sameKey_eq_false_iff.2 (.inr after)
      rw [if_pos after, List.mem_cons, List.mem_cons, ih later, List.forall_mem_cons]
      simp only [apart, true_and, or_assoc]
    · -- The entry that is there has the key already.
      have same : sameKey lt a b = true := by simp [sameKey, before, after]
      rw [if_neg after]
      simp [same]

theorem arrange_concat (as : List α) (a : α) : arrange lt (as ++ [a]) = place lt a (arrange lt as) := by
  rw [arrange, List.foldl_concat]
  rfl

/-- **Of several entries with one key the first is kept.** -/
theorem mem_arrange_iff (h : ByKey lt) {as : List α} {x : α} :
    x ∈ arrange lt as ↔ as.find? (sameKey lt x) = some x := by
  induction as using List.reverseRecOn with
  | nil => simp [arrange]
  | append_singleton as a ih =>
    have ascending : (arrange lt as).Pairwise fun a b => lt a b = true :=
      pairwise_arrange (fun a b c (hab : lt a b = true) (hbc : lt b c = true) => h.trans hab hbc) as
    rw [arrange_concat, mem_place_iff h ascending, ih, List.find?_append]
    cases found : as.find? (sameKey lt x) with
    | some y =>
      -- An entry with this key is there, so the new one is not added.
      have same : sameKey lt x y = true := List.find?_some found
      obtain ⟨b, hb, key⟩ : ∃ b ∈ arrange lt as, sameKey lt y b = true := by
        obtain ⟨b, hb, rfl | key⟩ := exists_mem_arrange (List.mem_of_find?_eq_some found)
        · exact ⟨b, hb, h.sameKey_self b⟩
        · exact ⟨b, hb, sameKey_eq_true_iff.2 key⟩
      rw [Option.some_or]
      refine or_iff_left ?_
      rintro ⟨rfl, none⟩
      have apart := none b hb
      rw [← h.sameKey_congr key] at apart
      exact absurd (same.symm.trans apart) (by decide)
    | none =>
      rw [Option.none_or]
      have missing := List.find?_eq_none.1 found
      constructor
      · rintro (old | ⟨rfl, _⟩)
        · cases old
        · simp [h.sameKey_self]
      · intro last
        obtain rfl : x = a := by simpa using List.mem_of_find?_eq_some last
        refine .inr ⟨rfl, fun b hb => ?_⟩
        exact Bool.eq_false_iff.2 (missing b (mem_of_mem_arrange hb))

/-! ## Sorted lists -/

section

variable {le : α → α → Bool} (notAfter : ∀ a b, le a b = !lt b a)

include notAfter

theorem le_trans (h : ByKey lt) (a b c : α) (hab : le a b = true) (hbc : le b c = true) :
    le a c = true := by
  rw [notAfter, Bool.not_eq_true'] at hab hbc ⊢
  refine Bool.eq_false_iff.2 fun hca => ?_
  rcases h.between c b a hca with hcb | hba
  · exact absurd (hcb.symm.trans hbc) (by decide)
  · exact absurd (hba.symm.trans hab) (by decide)

theorem le_total (h : ByKey lt) (a b : α) : (le a b || le b a) = true := by
  rw [notAfter, notAfter, Bool.or_eq_true, Bool.not_eq_true', Bool.not_eq_true']
  cases hba : lt b a with
  | false => exact .inl rfl
  | true => exact .inr (h.asymm b a hba)

/-- A stable sort keeps entries with one key in their order. -/
theorem filter_mergeSort (h : ByKey lt) (x : α) (as : List α) :
    (as.mergeSort le).filter (sameKey lt x) = as.filter (sameKey lt x) := by
  have sorted : (as.filter (sameKey lt x)).Pairwise fun a b => le a b = true := by
    refine List.pairwise_of_forall_mem_list fun a ha b hb => ?_
    have hxa : sameKey lt x a = true := (List.mem_filter.1 ha).2
    have hxb : sameKey lt x b = true := (List.mem_filter.1 hb).2
    have hab : sameKey lt a b = true := by
      rw [← h.sameKey_congr hxb, sameKey_comm]
      exact hxa
    rw [notAfter, (sameKey_eq_true_iff.1 hab).2]
    rfl
  -- They are a sublist of the sorted list, and there are no others with this key.
  have kept := List.sublist_mergeSort (le_trans notAfter h) (le_total notAfter h) sorted List.filter_sublist
  have listed := kept.filter (sameKey lt x)
  simp only [List.filter_filter, Bool.and_self] at listed
  have count : (as.filter (sameKey lt x)).length = ((as.mergeSort le).filter (sameKey lt x)).length :=
    ((List.mergeSort_perm as le).filter _).length_eq.symm
  exact (listed.eq_of_length count).symm

/-- A stable sort does not change which entry is the first of a key. -/
theorem find?_mergeSort (h : ByKey lt) (x : α) (as : List α) :
    (as.mergeSort le).find? (sameKey lt x) = as.find? (sameKey lt x) := by
  rw [← List.head?_filter, ← List.head?_filter, filter_mergeSort notAfter h]

end

section

variable {R : α → α → Prop} [DecidableRel R] (apart : ∀ a b, R a b ↔ sameKey lt a b = false)

include apart

/-- In a sorted list the entries with one key are neighbours, so the first of each key is left when an
entry with the key of the one before it is dropped. -/
theorem mem_destutter'_iff (h : ByKey lt) {a x : α} {as : List α}
    (sorted : (a :: as).Pairwise fun a b => lt b a = false) :
    x ∈ List.destutter' R a as ↔ (a :: as).find? (sameKey lt x) = some x := by
  induction as generalizing a with
  | nil =>
    rw [List.destutter'_nil, List.mem_singleton]
    by_cases same : sameKey lt x a = true
    · rw [List.find?_cons_of_pos same, Option.some_inj, eq_comm]
    · have other : x ≠ a := by
        rintro rfl
        exact same (h.sameKey_self x)
      simp [same, other]
  | cons b as ih =>
    obtain ⟨first, later⟩ := List.pairwise_cons.1 sorted
    by_cases distinct : R a b
    · have key : sameKey lt a b = false := (apart a b).1 distinct
      have ab : lt a b = true := by
        rcases sameKey_eq_false_iff.1 key with ab | ba
        · exact ab
        · exact absurd (ba.symm.trans (first b List.mem_cons_self)) (by decide)
      rw [List.destutter'_cons_pos _ distinct, List.mem_cons, ih later]
      by_cases same : sameKey lt x a = true
      · -- Nothing behind `a` has its key, as everything there comes after it.
        have none : (b :: as).find? (sameKey lt x) ≠ some x := by
          intro found
          have notBefore : lt x b = false := by
            rcases List.mem_cons.1 (List.mem_of_find?_eq_some found) with rfl | hx
            · exact h.irrefl x
            · exact (List.pairwise_cons.1 later).1 x hx
          have ax : lt a x = true := h.lt_of_lt_of_not_lt ab notBefore
          exact absurd (ax.symm.trans (sameKey_eq_true_iff.1 same).2) (by decide)
        rw [List.find?_cons_of_pos same, Option.some_inj, or_iff_left none, eq_comm]
      · have other : x ≠ a := by
          rintro rfl
          exact same (h.sameKey_self x)
        rw [List.find?_cons_of_neg same, or_iff_right other]
    · have key : sameKey lt a b = true := by
        simpa using mt (apart a b).2 distinct
      have shorter : (a :: as).Pairwise fun a b => lt b a = false :=
        List.pairwise_cons.2 ⟨fun c hc => first c (List.mem_cons_of_mem b hc),
          (List.pairwise_cons.1 later).2⟩
      rw [List.destutter'_cons_neg _ distinct, ih shorter, List.find?_cons, List.find?_cons,
        List.find?_cons, ← h.sameKey_congr key]
      cases sameKey lt x a <;> rfl

/-- What is left of a sorted list is strictly ascending. -/
theorem pairwise_destutter' (h : ByKey lt) {a : α} {as : List α}
    (sorted : (a :: as).Pairwise fun a b => lt b a = false) :
    (List.destutter' R a as).Pairwise fun a b => lt a b = true := by
  induction as generalizing a with
  | nil => simp [List.destutter'_nil]
  | cons b as ih =>
    obtain ⟨first, later⟩ := List.pairwise_cons.1 sorted
    by_cases distinct : R a b
    · have ab : lt a b = true := by
        rcases sameKey_eq_false_iff.1 ((apart a b).1 distinct) with ab | ba
        · exact ab
        · exact absurd (ba.symm.trans (first b List.mem_cons_self)) (by decide)
      rw [List.destutter'_cons_pos _ distinct]
      refine List.pairwise_cons.2 ⟨fun c hc => ?_, ih later⟩
      have listed := (List.destutter'_sublist as R b).subset hc
      rcases List.mem_cons.1 listed with rfl | hc
      · exact ab
      · exact h.lt_of_lt_of_not_lt ab ((List.pairwise_cons.1 later).1 c hc)
    · rw [List.destutter'_cons_neg _ distinct]
      exact ih (List.pairwise_cons.2 ⟨fun c hc => first c (List.mem_cons_of_mem b hc),
        (List.pairwise_cons.1 later).2⟩)

end

/-- **Sorting by a stable sort and dropping repetitions is arranging.** -/
theorem destutter_mergeSort (h : ByKey lt) {le : α → α → Bool} (notAfter : ∀ a b, le a b = !lt b a)
    {R : α → α → Prop} [DecidableRel R] (apart : ∀ a b, R a b ↔ sameKey lt a b = false)
    (as : List α) : (as.mergeSort le).destutter R = arrange lt as := by
  have sorted : (as.mergeSort le).Pairwise fun a b => lt b a = false := by
    refine (List.pairwise_mergeSort (le_trans notAfter h) (le_total notAfter h) as).imp ?_
    intro a b hab
    simpa [notAfter] using hab
  have first : ∀ x, (as.mergeSort le).find? (sameKey lt x) = as.find? (sameKey lt x) :=
    fun x => find?_mergeSort notAfter h x as
  have arranged : (arrange lt as).Pairwise fun a b => lt a b = true :=
    pairwise_arrange (fun a b c (hab : lt a b = true) (hbc : lt b c = true) => h.trans hab hbc) as
  cases list : as.mergeSort le with
  | nil =>
    rw [list] at first
    refine h.eq_of_mem_iff List.Pairwise.nil arranged fun x => ?_
    rw [mem_arrange_iff h, ← first x]
    simp
  | cons a bs =>
    rw [list] at sorted first
    refine h.eq_of_mem_iff (pairwise_destutter' apart h sorted) arranged fun x => ?_
    rw [List.destutter_cons', mem_destutter'_iff apart h sorted, mem_arrange_iff h, first x]

end MapBallot.Ascending
