import MapBallot.Unicode.Normal
import MapBallot.Net.NameForm.Expansion
import MapBallot.Net.NameForm.Letter
import MapBallot.Net.NameForm.Refused

/-!
# `MapBallot.Net.NameForm` — how the characters of a host name are written

Host names are compared after each character was replaced by what is written for it: the small
letter for a capital, the plain letter for one of another shape, nothing for a hint at how others
are shown. Some characters no host name has.

## Contents

* `folded` — what is written for a character that has no parts;
* `written?` — what is written for any character;
* `nameForm?` — a whole name, in normal form.
-/

namespace MapBallot.Net

open Unicode (within letterAt codeAt)

namespace NameForm

/-- The character that a run of `shifts` gives. -/
def shifted? (n : Nat) : Option Char :=
  let run? := shifts.find? fun (first, last, step, _) =>
    first ≤ n && n ≤ last && (n - first) % step == 0
  run?.map fun (first, _, _, target) => .ofNat (target + (n - first))

/-- The one character that is written for another. -/
def letter? (n : Nat) : Option Char := shifted? n <|> letterAt letterRows n <|> codeAt joinedRows n

/-- The characters that are written for one. -/
def expansion? (n : Nat) : Option (List Char) :=
  (expansions.lookup n).map String.toList <|>
    (joinedExpansions.lookup n).map fun codes => codes.map Char.ofNat

/-- What is written for a character that does not consist of others. -/
def folded (c : Char) : List Char :=
  if c.toNat < 0x80 then [c.toLower]
  else if within ignoredRanges c.toNat then []
  else
    match letter? c.toNat with
    | some d => [d]
    | none => (expansion? c.toNat).getD [c]

/-- What is written for a character, part by part; `none` if no host name has it. -/
def written? (c : Char) : Option (List Char) :=
  if c.toNat < 0x80 then some [c.toLower]
  else if within refusedRanges c.toNat then none
  else some ((Unicode.decompose c).flatMap folded)

end NameForm

/-- A name as it is written, in normal form; `none` if it has a character that no host name has. -/
def nameForm? (cs : List Char) : Option (List Char) :=
  (cs.mapM NameForm.written?).map fun parts => Unicode.normalize parts.flatten

end MapBallot.Net
