/-!
# `MapBallot.Text.Blank` — blank characters, trimming and splitting into words

Operators type commands and addresses by hand, so every text that reaches the service is first freed
of the blanks around it. *Blank* is the Unicode property White_Space: the ASCII controls from tab to
carriage return, the space, and the wide and narrow spaces of other scripts.

## Contents

* `isBlank` — the character class;
* `trimStart`, `trimEnd`, `trim` — a text without the blanks at its ends;
* `words` — the maximal runs of other characters, in order.
-/

namespace MapBallot.Text

/-- A character with the Unicode property White_Space. -/
def isBlank (c : Char) : Bool :=
  let n := c.toNat
  (9 ≤ n && n ≤ 13) || n == 0x20 || n == 0x85 || n == 0xA0 || n == 0x1680 ||
    (0x2000 ≤ n && n ≤ 0x200A) || n == 0x2028 || n == 0x2029 || n == 0x202F || n == 0x205F ||
    n == 0x3000

/-- A text without its leading blanks. -/
def trimStart (cs : List Char) : List Char := cs.dropWhile isBlank

/-- A text without its trailing blanks. -/
def trimEnd (cs : List Char) : List Char := (trimStart cs.reverse).reverse

/-- A text without the blanks at either end. -/
def trim (cs : List Char) : List Char := trimEnd (trimStart cs)

theorem length_dropWhile_le {α : Type} (p : α → Bool) (xs : List α) :
    (xs.dropWhile p).length ≤ xs.length := by
  induction xs with
  | nil => simp
  | cons x xs ih =>
    rw [List.dropWhile_cons]
    split
    · exact Nat.le_succ_of_le ih
    · exact Nat.le_refl _

/-- The maximal runs of characters that are not blank, in the order of the text. -/
def words : List Char → List (List Char)
  | [] => []
  | c :: cs =>
    if isBlank c then words cs
    else (c :: cs.takeWhile (! isBlank ·)) :: words (cs.dropWhile (! isBlank ·))
termination_by cs => cs.length
decreasing_by
  · simp
  · exact Nat.lt_succ_of_le (length_dropWhile_le _ cs)

/-- The words of a text, as texts. -/
def splitWords (s : String) : List String := (words s.toList).map String.ofList

/-- A text without the blanks at either end, as a text. -/
def trimmed (s : String) : String := String.ofList (trim s.toList)

end MapBallot.Text
