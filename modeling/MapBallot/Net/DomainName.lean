import MapBallot.Net.NameForm
import MapBallot.Net.Punycode
import MapBallot.Unicode.Direction
import MapBallot.Unicode.Joining

/-!
# `MapBallot.Net.DomainName` — host names in letters of all scripts

A host name is a sequence of labels between points. A label may be written in the letters of its
script or, after `xn--`, in ASCII characters; both name the same host, so the ASCII form is what
counts. A label in letters of other scripts must be one that a reader can tell from others: it does
not begin with a mark, joins letters only where they can be joined, and keeps to one direction.

## Contents

* `splitBy` — the parts of a text between separators;
* `joinersFit`, `directionFits` — what labels keep to;
* `readLabel?`, `asciiLabel` — from a label to its letters, and to its ASCII form;
* `asciiDomain?` — the ASCII form of a whole name.
-/

namespace MapBallot.Net

open Unicode (Direction combiningClass direction)

/-- The parts of a text between separators. -/
def splitBy (separator : Char → Bool) : List Char → List (List Char)
  | [] => [[]]
  | c :: cs =>
    if separator c then [] :: splitBy separator cs
    else
      match splitBy separator cs with
      | part :: parts => (c :: part) :: parts
      | [] => [[c]]

/-- Whether a text is in ASCII characters. -/
def isAscii (cs : List Char) : Bool := cs.all fun c => c.toNat < 0x80

/-- The characters that no domain has. -/
def isForbiddenInDomain (c : Char) : Bool :=
  c.toNat ≤ 0x20 || c.toNat == 0x7F || "%#/:<>?@[\\]^|".toList.contains c

/-! ## Joiners -/

/-- The sign that keeps letters apart. -/
def nonJoiner : Char := .ofNat 0x200C

/-- The sign that joins letters. -/
def joiner : Char := .ofNat 0x200D

/-- Whether the nearest character that is not transparent is a letter of a kind. -/
def reaches (kind : Char → Bool) : List Char → Bool
  | [] => false
  | c :: cs => kind c || (Unicode.isTransparent c && reaches kind cs)

/-- Whether a sign that joins letters, or keeps them apart, may stand between two texts, the first
of which is given backwards: after a sign that silences a vowel, or to keep two letters apart that
would be joined. -/
def joinerFits (before : List Char) (c : Char) (after : List Char) : Bool :=
  match before with
  | [] => false
  | d :: _ =>
    combiningClass d == Unicode.virama ||
      (c == nonJoiner && reaches Unicode.joinsNext before && reaches Unicode.joinsPrevious after)

/-- Whether all such signs in a text may stand where they are; `before` is what comes before it,
backwards. -/
def joinersFit (before : List Char) : List Char → Bool
  | [] => true
  | c :: cs =>
    (!(c == joiner || c == nonJoiner) || joinerFits before c cs) && joinersFit (c :: before) cs

/-! ## Directions -/

/-- A character that makes the whole name one of mixed directions. -/
def runsLeft (c : Char) : Bool :=
  match direction c with
  | .rightToLeft | .arabic => true
  | _ => false

/-- The directions of a label that may stand in a name of mixed directions. A label runs the way of
its first letter; it ends with a letter of that way or a figure, but for marks; and a label that
runs to the left has figures of one shape. -/
def directionFits (ds : List Direction) : Bool :=
  let last := (ds.reverse.find? (· != .mark)).getD .mark
  match ds.head? with
  | none => true
  | some .leftToRight =>
    (last == .leftToRight || last == .european) &&
      ds.all fun d => d != .rightToLeft && d != .arabic
  | some .rightToLeft =>
    (last == .rightToLeft || last == .european || last == .arabic) &&
      (ds.all (· != .leftToRight)) && !(ds.contains .european && ds.contains .arabic)
  | some _ => false

/-! ## Labels -/

/-- What an ASCII form of other letters begins with. -/
def asciiPrefix : List Char := "xn--".toList

/-- The greatest length of a label in letters of other scripts. -/
def maxPlain : Nat := 1000

/-- The greatest length of an ASCII form, without what it begins with. -/
def maxEncoded : Nat := 2000

/-- Whether a label in the letters of its script may stand in a name. -/
def isLabel (label : List Char) : Bool :=
  !(label.head?.any Unicode.isMark) && joinersFit [] label &&
    (isAscii label || label.length ≤ maxPlain) && !label.any isForbiddenInDomain

/-- The letters that an ASCII form stands for. They must be in the form in which names are written.
-/
def decodeLabel? (encoded : List Char) : Option (List Char) :=
  if !isAscii encoded || encoded.getLast?.all (· == '-') || maxEncoded < encoded.length then none
  else (Punycode.decode? encoded).filter fun label => nameForm? label == some label

/-- The letters of a label in the form in which names are written. -/
def readLabel? (label : List Char) : Option (List Char) :=
  let letters? := if asciiPrefix.isPrefixOf label then decodeLabel? (label.drop 4) else some label
  letters?.filter isLabel

/-- A label in ASCII characters. -/
def asciiLabel (label : List Char) : List Char :=
  if isAscii label then label else asciiPrefix ++ Punycode.encode label

/-! ## Names -/

/-- A host name in lower case and in ASCII characters; `none` if it is none. -/
def asciiDomain? (name : List Char) : Option (List Char) := do
  let written ← nameForm? name
  let labels ← (splitBy (· == '.') written).mapM readLabel?
  let mixed := labels.any (·.any runsLeft)
  if mixed && !labels.all fun label => directionFits (label.map direction) then none
  else some ((".".toList).intercalate (labels.map asciiLabel))

end MapBallot.Net
