import Mathlib.Data.List.Induction
import MapBallot.Text.Blank

/-!
# `MapBallot.Proofs.Text.Lines` — complete lines, and what is blank in them

A text that comes in pieces has complete lines, which end with a line break, and perhaps the beginning of
one more. Reading complete lines one after the other gives what the text as a whole has.

Lines are freed of the blanks around them before they are split into words. That changes nothing of the
words.

## Contents

* `lines` — the complete lines of a text; `lines_cons`, `lines_append`, `lines_mono`;
* `words_trim` — trimming keeps the words; `words_concat` — so does a blank at the end;
* `trim_eq_nil_iff` — a text without words is blank.
-/

namespace MapBallot.Text

/-! ## Lines -/

/-- The complete lines of a text, without their ends. -/
def lines (cs : List Char) : List (List Char) := (cs.splitOn '\n').dropLast

theorem lines_cons {line : List Char} (h : '\n' ∉ line) (rest : List Char) :
    lines (line ++ '\n' :: rest) = line :: lines rest := by
  unfold lines
  rw [List.splitOn_append_cons_self_of_not_mem h, List.dropLast_cons_of_ne_nil (List.splitOn_ne_nil _ _)]

/-- A text without line breaks has no complete line. -/
theorem lines_of_not_mem {cs : List Char} (h : '\n' ∉ cs) : lines cs = [] := by
  rw [lines, List.splitOn_eq_singleton h, List.dropLast_singleton]

/-- Every other text begins with one. -/
theorem exists_line {cs : List Char} (h : '\n' ∈ cs) :
    ∃ line rest, '\n' ∉ line ∧ cs = line ++ '\n' :: rest := by
  obtain ⟨line, rest, rfl, fresh⟩ := List.eq_append_cons_of_mem h
  exact ⟨line, rest, fresh, rfl⟩

/-- Some complete lines, and what follows them. -/
theorem lines_append {taken : List (List Char)} (h : ∀ line ∈ taken, '\n' ∉ line) (rest : List Char) :
    lines (taken.flatMap (· ++ ['\n']) ++ rest) = taken ++ lines rest := by
  induction taken with
  | nil => rfl
  | cons line taken ih =>
    obtain ⟨first, others⟩ := List.forall_mem_cons.1 h
    rw [List.flatMap_cons, List.append_assoc, List.append_assoc, List.singleton_append, lines_cons first,
      ih others]
    rfl

/-- More text adds lines after those that were complete before. -/
theorem lines_mono (cs ds : List Char) : lines cs <+: lines (cs ++ ds) := by
  induction h : cs.length using Nat.strongRecOn generalizing cs with
  | ind n shorter =>
    by_cases broken : '\n' ∈ cs
    · obtain ⟨line, rest, whole, rfl⟩ := exists_line broken
      rw [List.append_assoc, List.cons_append, lines_cons whole, lines_cons whole]
      refine (List.cons_prefix_cons).2 ⟨rfl, shorter rest.length ?_ rest rfl⟩
      rw [← h, List.length_append, List.length_cons]
      omega
    · rw [lines_of_not_mem broken]
      exact List.nil_prefix

/-! ## Blanks -/

theorem words_cons_of_blank {c : Char} (blank : isBlank c = true) (cs : List Char) :
    words (c :: cs) = words cs := by
  rw [words, if_pos blank]

theorem words_trimStart (cs : List Char) : words (trimStart cs) = words cs := by
  induction cs with
  | nil => rfl
  | cons c cs ih =>
    unfold trimStart at ih ⊢
    by_cases blank : isBlank c = true
    · rw [List.dropWhile_cons_of_pos blank, words_cons_of_blank blank, ih]
    · rw [List.dropWhile_cons_of_neg blank]

/-- A blank at the end is in no word. -/
theorem words_concat {c : Char} (blank : isBlank c = true) (cs : List Char) :
    words (cs ++ [c]) = words cs := by
  have stop : (! isBlank c) = false := by rw [blank, Bool.not_true]
  fun_induction words cs with
  | case1 => rw [List.nil_append, words_cons_of_blank blank, words]
  | case2 d cs skipped ih => rw [List.cons_append, words_cons_of_blank skipped, ih]
  | case3 d cs inWord ih =>
    have word : (cs ++ [c]).takeWhile (! isBlank ·) = cs.takeWhile (! isBlank ·) := by
      rw [List.takeWhile_append, List.takeWhile_cons, stop]
      split
      · next whole =>
        rw [(List.takeWhile_prefix _).eq_of_length whole]
        exact List.append_nil cs
      · rfl
    have rest : (cs ++ [c]).dropWhile (! isBlank ·) = cs.dropWhile (! isBlank ·) ++ [c] := by
      rw [List.dropWhile_append, List.dropWhile_cons, stop]
      split
      · next none =>
        rw [List.isEmpty_iff.1 none]
        rfl
      · rfl
    rw [List.cons_append, words, if_neg inWord, word, rest, ih]

theorem trimEnd_concat (cs : List Char) (c : Char) :
    trimEnd (cs ++ [c]) = if isBlank c then trimEnd cs else cs ++ [c] := by
  unfold trimEnd trimStart
  rw [List.reverse_append, List.reverse_singleton, List.singleton_append, List.dropWhile_cons]
  split
  · rfl
  · rw [List.reverse_cons, List.reverse_reverse]

theorem words_trimEnd (cs : List Char) : words (trimEnd cs) = words cs := by
  induction cs using List.reverseRecOn with
  | nil => rfl
  | append_singleton cs c ih =>
    rw [trimEnd_concat]
    by_cases blank : isBlank c = true
    · rw [if_pos blank, words_concat blank, ih]
    · rw [if_neg blank]

/-- **Trimming keeps the words.** -/
theorem words_trim (cs : List Char) : words (trim cs) = words cs := by
  rw [trim, words_trimEnd, words_trimStart]

theorem trimStart_eq_nil {cs : List Char} (none : words cs = []) : trimStart cs = [] := by
  induction cs with
  | nil => rfl
  | cons c cs ih =>
    by_cases blank : isBlank c = true
    · rw [words_cons_of_blank blank] at none
      unfold trimStart at ih ⊢
      rw [List.dropWhile_cons_of_pos blank, ih none]
    · rw [words, if_neg blank] at none
      cases none

/-- A text without words is blank. -/
theorem trim_eq_nil_iff {cs : List Char} : trim cs = [] ↔ words cs = [] := by
  constructor
  · intro h
    rw [← words_trim, h, words]
  · intro none
    rw [trim, trimStart_eq_nil none]
    rfl

end MapBallot.Text
