import MapBallot.Unicode.CombiningClass
import MapBallot.Unicode.Decomposition

/-!
# `MapBallot.Unicode.Normal` — one way to write each text

The same text can be written with letters that carry their marks or with marks that follow, and
marks at different places of a letter can follow in any order. The normal form has letters that
carry their marks wherever there are such letters, and the other marks in the order of their
classes.

## Contents

* `place`, `orderMarks` — marks in the order of their classes;
* `composeFrom`, `composeAll` — letters that take up the marks after them;
* `normalize` — the normal form.
-/

namespace MapBallot.Unicode

/-- Puts a character before a text in which marks are in order: a mark goes after those of lower
classes. -/
def place (c : Char) : List Char → List Char
  | [] => [c]
  | d :: ds =>
    if 0 < combiningClass d && combiningClass d < combiningClass c then d :: place c ds
    else c :: d :: ds

/-- Brings the marks of each letter into the order of their classes; marks of one class stay as they
are. -/
def orderMarks : List Char → List Char
  | [] => []
  | c :: cs => place c (orderMarks cs)

/-- Composes a text that begins with a letter, which takes up every mark that it can. `kept` are the
marks passed so far, the last one first; a mark of the same class or a higher one among them stands
in the way of another. -/
def composeFrom (letter : Char) (kept : List Char) : List Char → List Char
  | [] => letter :: kept.reverse
  | c :: cs =>
    let free := match kept with
      | [] => true
      | d :: _ => combiningClass d < combiningClass c
    match if free then compose? letter c else none with
    | some whole => composeFrom whole kept cs
    | none =>
      if combiningClass c == 0 then letter :: kept.reverse ++ composeFrom c [] cs
      else composeFrom letter (c :: kept) cs

/-- Composes a text in which marks are in order. Marks before the first letter stay as they are. -/
def composeAll : List Char → List Char
  | [] => []
  | c :: cs => if combiningClass c == 0 then composeFrom c [] cs else c :: composeAll cs

/-- The normal form of a text. -/
def normalize (cs : List Char) : List Char := composeAll (orderMarks (cs.flatMap decompose))

end MapBallot.Unicode
