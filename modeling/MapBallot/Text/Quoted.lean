import MapBallot.Text.Unprintable

/-!
# `MapBallot.Text.Quoted` — texts shown between quotes

Messages and log entries show foreign text between double quotes, with everything escaped that would
break the line or hide what is there.

## Contents

* `hexDigits` — a number in lower-case hexadecimal;
* `quote` — a text between quotes;
* `showList`, `showSet`, `showOption` — collections of already shown items.
-/

namespace MapBallot.Text

/-- A number in lower-case hexadecimal, without leading zeros. -/
def hexDigits (n : Nat) : String := String.ofList (Nat.toDigits 16 n)

/-- One character of a quoted text. -/
def quotedChar (c : Char) : String :=
  if c == '\x00' then "\\0"
  else if c == '\t' then "\\t"
  else if c == '\r' then "\\r"
  else if c == '\n' then "\\n"
  else if c == '"' then "\\\""
  else if c == '\\' then "\\\\"
  else if c.toNat < 0x20 || c.toNat == 0x7F || isUnprintable c then
    "\\u\x7b" ++ hexDigits c.toNat ++ "\x7d"
  else String.singleton c

/-- A text between double quotes. -/
def quote (s : String) : String := "\"" ++ String.join (s.toList.map quotedChar) ++ "\""

/-- Shown items in brackets, separated by commas. -/
def showList (items : List String) : String := "[" ++ ", ".intercalate items ++ "]"

/-- Shown items in braces, separated by commas. -/
def showSet (items : List String) : String := "\x7b" ++ ", ".intercalate items ++ "\x7d"

/-- A shown item that may be absent. -/
def showOption : Option String → String
  | none => "None"
  | some item => "Some(" ++ item ++ ")"

end MapBallot.Text
