import MapBallot.Json.Draft

/-!
# `MapBallot.Json.Reader` — from a text to its draft

The reader walks a text once and keeps everything up to the first place where the text stops being a
document. It never fails: the draft says how far it came.

## Contents

* `skipBlanks` — the blanks that documents may contain;
* `scanString?` — a quoted text;
* `readValue` and its companions — a draft and the text after it;
* `Draft.ofText` — the draft of a whole text, and whether only blanks follow it;
* `Json.parse?` — the document that a text is.
-/

namespace MapBallot.Json

/-- A blank between the parts of a document. -/
def isDocumentBlank (c : Char) : Bool := c == ' ' || c == '\t' || c == '\n' || c == '\r'

/-- A text without its leading blanks. -/
def skipBlanks (cs : List Char) : List Char := cs.dropWhile isDocumentBlank

/-- The value of one hexadecimal digit. -/
def hexValue? (c : Char) : Option Nat :=
  if c.isDigit then some (c.toNat - '0'.toNat)
  else if 'a' ≤ c && c ≤ 'f' then some (c.toNat - 'a'.toNat + 10)
  else if 'A' ≤ c && c ≤ 'F' then some (c.toNat - 'A'.toNat + 10)
  else none

/-- The value of four hexadecimal digits. -/
def hexUnit? (a b c d : Char) : Option Nat := do
  let a ← hexValue? a
  let b ← hexValue? b
  let c ← hexValue? c
  let d ← hexValue? d
  pure (((a * 16 + b) * 16 + c) * 16 + d)

/-- The character that a one-letter escape stands for. -/
def simpleEscape? (c : Char) : Option Char :=
  if c == '"' || c == '\\' || c == '/' then some c
  else if c == 'b' then some '\x08'
  else if c == 'f' then some '\x0c'
  else if c == 'n' then some '\n'
  else if c == 'r' then some '\r'
  else if c == 't' then some '\t'
  else none

/-- A piece of a quoted text: a character, or half of a pair of escapes. -/
inductive Piece
  | char (c : Char)
  /-- An escape for a code unit from U+D800 to U+DFFF. -/
  | surrogate (unit : Nat)

/-- The piece that a code unit stands for. -/
def Piece.ofUnit (unit : Nat) : Piece :=
  if 0xD800 ≤ unit && unit ≤ 0xDFFF then .surrogate unit else .char (Char.ofNat unit)

/-- The characters that pieces spell: two escapes make one character when the first is a leading and
the second a trailing half, and no half stands alone. -/
def joinPieces? : List Piece → Option (List Char)
  | [] => some []
  | .char c :: ps => (joinPieces? ps).map (c :: ·)
  | .surrogate high :: .surrogate low :: ps =>
    if high < 0xDC00 && 0xDC00 ≤ low then
      (joinPieces? ps).map (Char.ofNat (0x10000 + (high - 0xD800) * 0x400 + (low - 0xDC00)) :: ·)
    else none
  | .surrogate _ :: _ => none

/-- The pieces of a quoted text after its opening quote, and the text after its closing quote;
`none` if it is not closed, holds a control character or has an escape that does not exist. -/
def scanPieces? : List Char → Option (List Piece × List Char)
  | [] => none
  | '"' :: rest => some ([], rest)
  | '\\' :: 'u' :: a :: b :: c :: d :: rest =>
    match hexUnit? a b c d with
    | none => none
    | some unit => (scanPieces? rest).map fun (ps, rest) => (Piece.ofUnit unit :: ps, rest)
  | '\\' :: c :: rest =>
    match simpleEscape? c with
    | none => none
    | some e => (scanPieces? rest).map fun (ps, rest) => (.char e :: ps, rest)
  | c :: rest =>
    if c.toNat < 0x20 || c == '\\' then none
    else (scanPieces? rest).map fun (ps, rest) => (.char c :: ps, rest)

/-- A quoted text after its opening quote, and the text after its closing quote. -/
def scanString? (cs : List Char) : Option (Option String × List Char) :=
  (scanPieces? cs).map fun (ps, rest) => ((joinPieces? ps).map String.ofList, rest)

/-- What follows a given word at the start of a text. -/
def dropWord? : List Char → List Char → Option (List Char)
  | [], cs => some cs
  | _ :: _, [] => none
  | w :: ws, c :: cs => if w == c then dropWord? ws cs else none

/-- A value that is written as one word. -/
def readWord (word : String) (value : Draft) (cs : List Char) : Draft × Option (List Char) :=
  match dropWord? word.toList cs with
  | some rest => (value, some rest)
  | none => (.broken, none)

/-- A value that is a number literal. -/
def readNumber (cs : List Char) : Draft × Option (List Char) :=
  match Literal.scan? cs with
  | some (l, rest) => (.number l.number?, some rest)
  | none => (.broken, none)

mutual

/-- The draft of a value, and the text after it unless the value is cut off. `fuel` bounds the
number of characters to read. -/
def readValue : Nat → List Char → Draft × Option (List Char)
  | 0, _ => (.broken, none)
  | fuel + 1, cs =>
    match skipBlanks cs with
    | [] => (.broken, none)
    | '[' :: cs =>
      match skipBlanks cs with
      | ']' :: rest => (.array [] true, some rest)
      | cs =>
        let (items, rest) := readItems fuel cs
        (.array items rest.isSome, rest)
    | '\x7b' :: cs =>
      match skipBlanks cs with
      | '\x7d' :: rest => (.object [] true, some rest)
      | cs =>
        let (members, rest) := readMembers fuel cs
        (.object members rest.isSome, rest)
    | '"' :: cs =>
      match scanString? cs with
      | some (s, rest) => (.string s, some rest)
      | none => (.broken, none)
    | 'n' :: cs => readWord "ull" .null cs
    | 't' :: cs => readWord "rue" (.bool true) cs
    | 'f' :: cs => readWord "alse" (.bool false) cs
    | cs => readNumber cs

/-- The items of a sequence from one item on, and the text after the closing bracket unless the
sequence is cut off. -/
def readItems : Nat → List Char → List Draft × Option (List Char)
  | 0, _ => ([], none)
  | fuel + 1, cs =>
    match readValue fuel cs with
    | (d, none) => ([d], none)
    | (d, some rest) =>
      match skipBlanks rest with
      | ']' :: rest => ([d], some rest)
      | ',' :: rest =>
        match skipBlanks rest with
        | ']' :: _ => ([d], none)
        | rest =>
          let (items, rest) := readItems fuel rest
          (d :: items, rest)
      | _ => ([d], none)

/-- The members of an object from one name on, and the text after the closing brace unless the
object is cut off. -/
def readMembers : Nat → List Char → List (Draft × Draft) × Option (List Char)
  | 0, _ => ([], none)
  | fuel + 1, cs =>
    match skipBlanks cs with
    | '"' :: cs =>
      match scanString? cs with
      | none => ([(.broken, .broken)], none)
      | some (name, rest) =>
        match skipBlanks rest with
        | ':' :: rest =>
          match readValue fuel rest with
          | (d, none) => ([(.string name, d)], none)
          | (d, some rest) =>
            match skipBlanks rest with
            | '\x7d' :: rest => ([(.string name, d)], some rest)
            | ',' :: rest =>
              match skipBlanks rest with
              | '\x7d' :: _ => ([(.string name, d)], none)
              | rest =>
                let (members, rest) := readMembers fuel rest
                ((.string name, d) :: members, rest)
            | _ => ([(.string name, d)], none)
        | _ => ([(.string name, .broken)], none)
    | _ => ([(.broken, .broken)], none)

end

/-- The draft of a text, and whether only blanks follow what it describes. -/
def Draft.ofText (text : String) : Draft × Bool :=
  let cs := text.toList
  match readValue (2 * cs.length + 2) cs with
  | (d, some rest) => (d, (skipBlanks rest).isEmpty)
  | (d, none) => (d, false)

end MapBallot.Json

namespace MapBallot

/-- The document that a text is, if it is one. -/
def Json.parse? (text : String) : Option Json :=
  match Json.Draft.ofText text with
  | (d, true) => d.toJson?
  | (_, false) => none

end MapBallot
