import Mathlib
import MapBallot.Environment
import MapBallot.Identifier
import MapBallot.Proofs.Text.Spaced

/-!
# `MapBallot.Proofs.Text.AnyCase` — names typed in any case

A name of a closed set may be typed with any of its letters in upper case. The reader brings what was typed
to lower case and looks for the name; for names without upper-case letters that accepts just these ways to
type them, and of no other script.

## Contents

* `InAnyCase`, `asciiLower_eq_iff` — the ways to type a name;
* `Environment.parse_eq_ok_iff` — environments;
* `isWord_of_isIdentifier`, `isWord_of_inAnyCase` — such names are words.
-/

namespace MapBallot

/-- A way to type a name: letter by letter, each as it is or in upper case. -/
def InAnyCase (typed name : String) : Prop :=
  List.Forall₂ (fun t c => t = c ∨ t = c.toUpper) typed.toList name.toList

instance (typed name : String) : Decidable (InAnyCase typed name) :=
  inferInstanceAs (Decidable (List.Forall₂ _ _ _))

/-! ## Lower case -/

/-- What becomes a character that is no upper-case letter is that character, or its upper case. -/
theorem toLower_eq_iff {t c : Char} (lower : c.isUpper = false) : t.toLower = c ↔ t = c ∨ t = c.toUpper := by
  have same : c.toLower = c := Char.toLower_eq_of_not_isUpper (by simp [lower])
  constructor
  · intro lowered
    by_cases upper : t.isUpper = true
    · have raised : t.toUpper = t := Char.toUpper_eq_of_not_isLower (Char.not_isLower_of_isUpper upper)
      right
      rw [← lowered, Char.toUpper_toLower_eq_toUpper, raised]
    · left
      rw [← lowered, Char.toLower_eq_of_not_isUpper upper]
  · rintro (rfl | rfl)
    · exact same
    · rw [Char.toLower_toUpper_eq_toLower, same]

/-- **What becomes a name in lower case are the ways to type it.** -/
theorem asciiLower_eq_iff {typed name : String} (lower : name.toList.all (! ·.isUpper) = true) :
    asciiLower typed = name ↔ InAnyCase typed name := by
  have letters (ts cs : List Char) (lower : ∀ c ∈ cs, c.isUpper = false) :
      ts.map Char.toLower = cs ↔ List.Forall₂ (fun t c => t = c ∨ t = c.toUpper) ts cs := by
    induction cs generalizing ts with
    | nil => cases ts <;> simp
    | cons c cs ih =>
      obtain ⟨first, others⟩ := List.forall_mem_cons.1 lower
      cases ts with
      | nil => simp
      | cons t ts => rw [List.map_cons, List.cons.injEq, toLower_eq_iff first, ih ts others, List.forall₂_cons]
  rw [InAnyCase, ← letters _ _ (by simpa using lower), asciiLower]
  constructor
  · rintro rfl
    exact String.toList_ofList.symm
  · intro same
    rw [same, String.ofList_toList]

/-- An environment may be typed in any case. -/
theorem Environment.parse_eq_ok_iff {s : String} {e : Environment} :
    Environment.parse s = .ok e ↔ InAnyCase s e.name := by
  have lower : e.name.toList.all (! ·.isUpper) = true := by cases e <;> decide
  rw [← asciiLower_eq_iff lower, Environment.parse]
  constructor
  · intro read
    cases found : ofName? (asciiLower s) with
    | none =>
      rw [found] at read
      cases read
    | some e' =>
      rw [found] at read
      obtain rfl := Except.ok.inj read
      unfold ofName? at found
      have same := List.find?_some found
      exact (beq_iff_eq.1 same).symm
  · intro named
    rw [named, ofName?_name]

/-! ## Names are words -/

theorem isBlank_of_isIdentifierChar {c : Char} (h : isIdentifierChar c = true) : Text.isBlank c = false := by
  -- All of these characters are from `0` to `z`, where there are no blanks.
  have code : c.toNat = c.val.toNat := rfl
  have bounds : 48 ≤ c.val.toNat ∧ c.val.toNat ≤ 122 := by
    simp only [isIdentifierChar, Char.isAlphanum, Char.isAlpha, Char.isUpper, Char.isLower, Char.isDigit,
      Bool.or_eq_true, Bool.and_eq_true, decide_eq_true_eq, ge_iff_le, UInt32.le_iff_toNat_le,
      beq_iff_eq] at h
    rcases h with ((upper | lower) | digit) | rfl
    · exact ⟨Nat.le_trans (by decide) upper.1, Nat.le_trans upper.2 (by decide)⟩
    · exact ⟨Nat.le_trans (by decide) lower.1, Nat.le_trans lower.2 (by decide)⟩
    · exact ⟨Nat.le_trans (by decide) digit.1, Nat.le_trans digit.2 (by decide)⟩
    · decide
  simp only [Text.isBlank, code, Bool.or_eq_false_iff, Bool.and_eq_false_iff, decide_eq_false_iff_not,
    beq_eq_false_iff_ne, Nat.not_le]
  omega

theorem isIdentifierChar_toUpper {c : Char} (h : isIdentifierChar c = true) :
    isIdentifierChar c.toUpper = true := by
  by_cases lower : c.isLower = true
  · have letter : c.toUpper.isAlpha = true := by
      rw [Char.isAlpha_toUpper_eq_isAlpha, Char.isAlpha, lower, Bool.or_true]
    rw [isIdentifierChar, Char.isAlphanum, letter]
    rfl
  · rwa [Char.toUpper_eq_of_not_isLower lower]

theorem chars_of_isIdentifier {s : String} (h : isIdentifier s = true) :
    s.toList ≠ [] ∧ ∀ c ∈ s.toList, isIdentifierChar c = true := by
  simp only [isIdentifier, Bool.and_eq_true, List.all_eq_true] at h
  exact ⟨by simpa using h.1.1, h.2⟩

/-- An identifier is a word. -/
theorem isWord_of_isIdentifier {s : String} (h : isIdentifier s = true) : Text.IsWord s.toList := by
  obtain ⟨nonempty, chars⟩ := chars_of_isIdentifier h
  exact ⟨nonempty, fun c hc => isBlank_of_isIdentifierChar (chars c hc)⟩

/-- A way to type an identifier is a word. -/
theorem isWord_of_inAnyCase {typed name : String} (h : InAnyCase typed name)
    (named : isIdentifier name = true) : Text.IsWord typed.toList := by
  obtain ⟨nonempty, chars⟩ := chars_of_isIdentifier named
  unfold InAnyCase at h
  generalize typed.toList = ts at h ⊢
  generalize name.toList = cs at h nonempty chars
  induction h with
  | nil => exact absurd rfl nonempty
  | @cons t c ts cs same rest ih =>
    obtain ⟨first, others⟩ := List.forall_mem_cons.1 chars
    have char : isIdentifierChar t = true := by
      rcases same with rfl | rfl
      · exact first
      · exact isIdentifierChar_toUpper first
    refine ⟨List.cons_ne_nil t ts, List.forall_mem_cons.2 ⟨isBlank_of_isIdentifierChar char, ?_⟩⟩
    rcases eq_or_ne cs [] with rfl | more
    · obtain rfl := List.forall₂_nil_right_iff.1 rest
      exact fun d none => absurd none List.not_mem_nil
    · exact (ih more others).2

end MapBallot
