import MapBallot.Proofs.Text.Lines

/-!
# `MapBallot.Proofs.Text.Spaced` — texts that are written for their words

The same words can be written in many ways: with any blanks around them, as long as there is one between
two of them. Splitting a text goes the other way, and it undoes every way of writing words that are not
empty and hold no blanks.

## Contents

* `Gap`, `IsWord` — blanks, and what can be a word;
* `Followed`, `Spaced` — the ways to write words;
* `words_of_followed`, `followed_words` — writing and splitting;
* `WordsOf`, `splitWords_eq_iff` — the words of a text.
-/

namespace MapBallot.Text

/-- Blanks alone, perhaps none. -/
def Gap (cs : List Char) : Prop := ∀ c ∈ cs, isBlank c = true

/-- What can be a word: something, without blanks. -/
def IsWord (cs : List Char) : Prop := cs ≠ [] ∧ ∀ c ∈ cs, isBlank c = false

/-- Words with blanks after each of them, and with at least one where another word follows. -/
inductive Followed : List (List Char) → List Char → Prop
  | nil : Followed [] []
  | cons {word gap rest : List Char} {words : List (List Char)} (blank : Gap gap)
      (apart : words ≠ [] → gap ≠ []) (more : Followed words rest) :
      Followed (word :: words) (word ++ (gap ++ rest))

/-- A way to write words: with blanks around them, and with at least one between two of them. -/
def Spaced (ws : List String) (line : String) : Prop :=
  ∃ before rest, Gap before ∧ Followed (ws.map String.toList) rest ∧ line.toList = before ++ rest

/-- The words of a text: real words, which the text is a way to write. -/
structure WordsOf (line : String) (ws : List String) : Prop where
  real : ∀ w ∈ ws, IsWord w.toList
  spaced : Spaced ws line

instance (cs : List Char) : Decidable (Gap cs) := decidable_of_iff (cs.all isBlank = true) List.all_eq_true

instance (cs : List Char) : Decidable (IsWord cs) :=
  decidable_of_iff (cs ≠ [] ∧ cs.all (! isBlank ·) = true) (by simp [IsWord])

/-! ## Splitting what was written -/

theorem words_append_of_gap {gap : List Char} (blank : Gap gap) (cs : List Char) :
    words (gap ++ cs) = words cs := by
  induction gap with
  | nil => rfl
  | cons c gap ih =>
    obtain ⟨first, others⟩ := List.forall_mem_cons.1 blank
    rw [List.cons_append, words_cons_of_blank first, ih others]

/-- A word ends at the blank after it, or with the text. -/
theorem words_append_of_isWord {word cs : List Char} (isWord : IsWord word)
    (ends : ∀ c ∈ cs.head?, isBlank c = true) : words (word ++ cs) = word :: words cs := by
  obtain ⟨nonempty, inWord⟩ := isWord
  obtain ⟨c, word, rfl⟩ := List.exists_cons_of_ne_nil nonempty
  obtain ⟨first, others⟩ := List.forall_mem_cons.1 inWord
  have stops : cs.takeWhile (! isBlank ·) = [] ∧ cs.dropWhile (! isBlank ·) = cs := by
    cases cs with
    | nil => exact ⟨rfl, rfl⟩
    | cons d cs =>
      have blank : isBlank d = true := ends d rfl
      simp [blank]
  have all : ∀ d ∈ word, (! isBlank d) = true := by simpa using others
  rw [List.cons_append, words, if_neg (by simp [first]), List.takeWhile_append_of_pos all,
    List.dropWhile_append_of_pos all, stops.1, stops.2, List.append_nil]

/-- **Splitting undoes every way of writing words.** -/
theorem words_of_followed {ws : List (List Char)} {cs : List Char} (followed : Followed ws cs)
    (real : ∀ w ∈ ws, IsWord w) : words cs = ws := by
  induction followed with
  | nil => rw [words]
  | @cons word gap rest ws blank apart more ih =>
    obtain ⟨first, others⟩ := List.forall_mem_cons.1 real
    have ends : ∀ c ∈ (gap ++ rest).head?, isBlank c = true := by
      intro c hc
      cases gap with
      | cons d gap =>
        obtain rfl : d = c := Option.some.inj hc
        exact blank d List.mem_cons_self
      | nil =>
        -- Without a blank there is no other word, and the text ends.
        cases more with
        | nil => cases hc
        | cons => exact absurd rfl (apart (List.cons_ne_nil _ _))
    rw [words_append_of_isWord first ends, words_append_of_gap blank, ih others]

/-! ## Writing what was split -/

theorem isWord_of_mem_words {cs word : List Char} (mem : word ∈ words cs) : IsWord word := by
  fun_induction words cs with
  | case1 => cases mem
  | case2 c cs blank ih => exact ih mem
  | case3 c cs inWord ih =>
    rcases List.mem_cons.1 mem with rfl | later
    · refine ⟨List.cons_ne_nil _ _, List.forall_mem_cons.2 ⟨by simpa using inWord, fun d hd => ?_⟩⟩
      simpa using List.all_eq_true.1 List.all_takeWhile d hd
    · exact ih later

/-- **A text is a way to write its words.** -/
theorem followed_words (cs : List Char) : Followed (words cs) (trimStart cs) := by
  fun_induction words cs with
  | case1 => exact .nil
  | case2 c cs blank ih =>
    rw [trimStart, List.dropWhile_cons_of_pos blank]
    exact ih
  | case3 c cs inWord ih =>
    have whole : trimStart (c :: cs) = (c :: cs.takeWhile (! isBlank ·)) ++
        ((cs.dropWhile (! isBlank ·)).takeWhile isBlank ++ trimStart (cs.dropWhile (! isBlank ·))) := by
      rw [trimStart, List.dropWhile_cons_of_neg inWord, trimStart, List.takeWhile_append_dropWhile,
        List.cons_append, List.takeWhile_append_dropWhile]
    rw [whole]
    refine .cons (List.all_eq_true.1 List.all_takeWhile) (fun more none => more ?_) ih
    -- What follows a word begins with a blank, or it is nothing.
    cases rest : cs.dropWhile (! isBlank ·) with
    | nil => rw [words]
    | cons d ds =>
      have blank : isBlank d = true := by
        have stopped := List.head?_dropWhile_not (! isBlank ·) cs
        rw [rest] at stopped
        simpa using stopped
      rw [rest, List.takeWhile_cons_of_pos blank] at none
      cases none

/-- **Splitting a text gives its words.** -/
theorem splitWords_eq_iff {line : String} {ws : List String} : splitWords line = ws ↔ WordsOf line ws := by
  constructor
  · rintro rfl
    have back : (splitWords line).map String.toList = words line.toList := by
      simp [splitWords, Function.comp_def]
    refine ⟨fun w mem => ?_, ⟨line.toList.takeWhile isBlank, trimStart line.toList, ?_, ?_, ?_⟩⟩
    · exact isWord_of_mem_words (back ▸ List.mem_map_of_mem mem)
    · exact List.all_eq_true.1 List.all_takeWhile
    · rw [back]
      exact followed_words line.toList
    · exact List.takeWhile_append_dropWhile.symm
  · rintro ⟨real, before, rest, blank, followed, whole⟩
    have split : words rest = ws.map String.toList :=
      words_of_followed followed (by simpa using real)
    rw [splitWords, whole, words_append_of_gap blank, split, List.map_map]
    simp [Function.comp_def]

/-- A text has its words and no others. -/
theorem existsUnique_wordsOf (line : String) : ∃! ws, WordsOf line ws :=
  ⟨splitWords line, splitWords_eq_iff.1 rfl, fun _ h => (splitWords_eq_iff.2 h).symm⟩

end MapBallot.Text
