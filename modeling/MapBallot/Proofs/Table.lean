/-!
# `MapBallot.Proofs.Table` — tables that are filled entry by entry

## Contents

* `Table`, `Table.enter`, `Table.ofEntries`, `Table.tally` — tables, and filling them;
* `ofEntries_eq_some`, `tally_eq_some` — what they hold.
-/

namespace MapBallot

variable {κ ν : Type}

/-- A table, as the value it holds for each key. -/
abbrev Table (κ ν : Type) : Type := κ → Option ν

namespace Table

variable [DecidableEq κ]

/-- A table with one more entry, which replaces that of the same key. -/
def enter (table : Table κ ν) (key : κ) (value : ν) : Table κ ν :=
  fun k => if k = key then some value else table k

/-- The table of some entries. -/
def ofEntries (entries : List (κ × ν)) : Table κ ν :=
  entries.foldl (fun table entry => table.enter entry.1 entry.2) fun _ => none

/-- How often each key occurs. -/
def tally (keys : List κ) : Table κ Nat :=
  keys.foldl (fun table key => table.enter key ((table key).getD 0 + 1)) fun _ => none

theorem enter_self (table : Table κ ν) (key : κ) (value : ν) :
    table.enter key value key = some value := if_pos rfl

theorem enter_of_ne (table : Table κ ν) {key k : κ} (value : ν) (h : k ≠ key) :
    table.enter key value k = table k := if_neg h

/-- Later entries with other keys do not matter. -/
theorem foldl_enter_of_notMem {entries : List (κ × ν)} {key : κ} (h : key ∉ entries.map Prod.fst)
    (table : Table κ ν) :
    entries.foldl (fun table entry => table.enter entry.1 entry.2) table key = table key := by
  induction entries generalizing table with
  | nil => rfl
  | cons entry entries ih =>
    rw [List.map_cons, List.mem_cons, not_or] at h
    rw [List.foldl_cons, ih h.2, enter_of_ne _ _ h.1]

/-- Where keys are not repeated, each entry is found. -/
theorem ofEntries_eq_some {entries : List (κ × ν)} (distinct : (entries.map Prod.fst).Nodup)
    {key : κ} {value : ν} (h : (key, value) ∈ entries) : ofEntries entries key = some value := by
  suffices ∀ table : Table κ ν,
      entries.foldl (fun table entry => table.enter entry.1 entry.2) table key = some value from
    this _
  induction entries with
  | nil => cases h
  | cons e entries ih =>
    intro table
    obtain ⟨fresh, rest⟩ := List.nodup_cons.1 distinct
    rcases List.mem_cons.1 h with rfl | h
    · rw [List.foldl_cons, foldl_enter_of_notMem fresh, enter_self]
    · exact ih rest h _

/-- A key that occurs is counted. -/
theorem tally_eq_some {keys : List κ} {key : κ} (h : key ∈ keys) :
    tally keys key = some (keys.countP (· = key)) := by
  -- The induction is over all tables to begin with; what one holds of the key is added to.
  suffices ∀ table : Table κ Nat,
      keys.foldl (fun table key => table.enter key ((table key).getD 0 + 1)) table key =
        if key ∈ keys then some ((table key).getD 0 + keys.countP (· = key)) else table key by
    rw [tally, this, if_pos h]
    simp
  intro table
  clear h
  induction keys generalizing table with
  | nil => rfl
  | cons k keys ih =>
    rw [List.foldl_cons, ih]
    by_cases same : k = key
    · subst same
      rw [enter_self, if_pos List.mem_cons_self, List.countP_cons_of_pos (by simp)]
      by_cases again : k ∈ keys
      · rw [if_pos again]
        simp only [Option.getD_some, Option.some.injEq]
        omega
      · have none : keys.countP (· = k) = 0 := by
          rw [List.countP_eq_zero]
          rintro k' hk'
          simpa using fun same : k' = k => again (same ▸ hk')
        rw [if_neg again, none]
    · rw [enter_of_ne _ _ (Ne.symm same), List.countP_cons_of_neg (by simpa using same)]
      simp only [List.mem_cons, Ne.symm same, false_or]

end Table

end MapBallot
