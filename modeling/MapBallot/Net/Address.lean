/-!
# `MapBallot.Net.Address` — addresses on which the service listens

A socket address is an address of version 4 or 6 of the internet protocol and a port. It is written
in one canonical form and read in the usual ones: in version 6 a run of zero groups may be left out,
and the last two groups may be written like an address of version 4.

## Contents

* `Ipv4`, `Ipv6`, with their texts;
* `SocketAddress`, `SocketAddress.text`, `SocketAddress.parse?`.
-/

namespace MapBallot.Net

/-- An address of version 4, four bytes. -/
structure Ipv4 where
  (a b c d : UInt8)
  deriving DecidableEq, Repr

/-- An address of version 6, eight groups of two bytes. -/
structure Ipv6 where
  groups : List UInt16
  eight : groups.length = 8
  deriving DecidableEq, Repr

/-- An address with a port; in version 6 also with a scope, zero for none. -/
inductive SocketAddress
  | v4 (ip : Ipv4) (port : UInt16)
  | v6 (ip : Ipv6) (scope : UInt32) (port : UInt16)
  deriving DecidableEq, Repr

/-! ## Writing -/

/-- The bytes in decimal, between points. -/
def Ipv4.text (ip : Ipv4) : String :=
  ".".intercalate ([ip.a, ip.b, ip.c, ip.d].map fun n => toString n.toNat)

/-- The length of the run of zeros at the head of a list of groups. -/
def zeroRun (groups : List UInt16) : Nat := (groups.takeWhile (· == 0)).length

/-- The start and the length of the longest run of zeros, the first of several. -/
def longestZeroRun (groups : List UInt16) : Nat × Nat :=
  (List.range groups.length).foldl
    (fun best i =>
      let n := zeroRun (groups.drop i)
      if best.2 < n then (i, n) else best)
    (0, 0)

/-- Groups in hexadecimal, between colons. -/
def groupsText (groups : List UInt16) : String :=
  ":".intercalate (groups.map fun g => String.ofList (Nat.toDigits 16 g.toNat))

/-- The groups with the longest run of zeros left out, if it has more than one. -/
def compressedText (groups : List UInt16) : String :=
  let (start, n) := longestZeroRun groups
  if n ≤ 1 then groupsText groups
  else groupsText (groups.take start) ++ "::" ++ groupsText (groups.drop (start + n))

/-- The address of version 4 that an address of version 6 stands for. -/
def Ipv6.mapped? (ip : Ipv6) : Option Ipv4 :=
  match ip.groups with
  | [0, 0, 0, 0, 0, 0xFFFF, x, y] =>
    some ⟨(x >>> 8).toUInt8, x.toUInt8, (y >>> 8).toUInt8, y.toUInt8⟩
  | _ => none

/-- The text of an address of version 6. -/
def Ipv6.text (ip : Ipv6) : String :=
  match ip.mapped? with
  | some v4 => "::ffff:" ++ v4.text
  | none => compressedText ip.groups

/-- The text of a socket address. -/
def SocketAddress.text : SocketAddress → String
  | .v4 ip port => ip.text ++ ":" ++ toString port.toNat
  | .v6 ip scope port =>
    let scope := if scope == 0 then "" else "%" ++ toString scope.toNat
    "[" ++ ip.text ++ scope ++ "]:" ++ toString port.toNat

/-! ## Reading -/

/-- The value of a digit in a base of at most sixteen. -/
def digitValue? (base : Nat) (c : Char) : Option Nat :=
  let n :=
    if '0' ≤ c && c ≤ '9' then c.toNat - '0'.toNat
    else if 'a' ≤ c && c ≤ 'f' then c.toNat - 'a'.toNat + 10
    else if 'A' ≤ c && c ≤ 'F' then c.toNat - 'A'.toNat + 10
    else base
  if n < base then some n else none

/-- The digits at the head of a text. -/
def digitsOf (base : Nat) : List Char → List Nat × List Char
  | [] => ([], [])
  | c :: cs =>
    match digitValue? base c with
    | none => ([], c :: cs)
    | some n =>
      let (ns, rest) := digitsOf base cs
      (n :: ns, rest)

/-- The value of digits. -/
def ofDigits (base : Nat) (ns : List Nat) : Nat := ns.foldl (fun v n => v * base + n) 0

/-- Reads a number below `bound` of at least one and, if a limit is given, at most as many digits.
-/
def readNumber (base bound : Nat) (limit : Option Nat) (leadingZero : Bool) (cs : List Char) :
    Option (Nat × List Char) :=
  let (ns, rest) := digitsOf base cs
  let n := ofDigits base ns
  if ns.isEmpty || limit.any (· < ns.length) || bound ≤ n then none
  else if !leadingZero && ns.head? == some 0 && 1 < ns.length then none
  else some (n, rest)

/-- Reads one character. -/
def readChar (c : Char) : List Char → Option (List Char)
  | [] => none
  | d :: cs => if c == d then some cs else none

/-- Reads a byte of an address of version 4. -/
def readByte (cs : List Char) : Option (UInt8 × List Char) :=
  (readNumber 10 256 (some 3) false cs).map fun (n, cs) => (n.toUInt8, cs)

/-- Reads an address of version 4. -/
def readIpv4 (cs : List Char) : Option (Ipv4 × List Char) := do
  let (a, cs) ← readByte cs
  let (b, cs) ← readByte (← readChar '.' cs)
  let (c, cs) ← readByte (← readChar '.' cs)
  let (d, cs) ← readByte (← readChar '.' cs)
  pure (⟨a, b, c, d⟩, cs)

/-- Skips the colon before every group but the first. -/
def readSeparator (first : Bool) (cs : List Char) : Option (List Char) :=
  if first then some cs else readChar ':' cs

/-- Reads at most `limit` groups of an address of version 6. An address of version 4 stands for the
last two; the flag tells whether there was one. -/
def readGroups (first : Bool) : Nat → List Char → List UInt16 × Bool × List Char
  | 0, cs => ([], false, cs)
  | limit + 1, cs =>
    match readSeparator first cs with
    | none => ([], false, cs)
    | some body =>
      match (if limit == 0 then none else readIpv4 body) with
      | some (ip, rest) =>
        ([ip.a.toUInt16 * 256 + ip.b.toUInt16, ip.c.toUInt16 * 256 + ip.d.toUInt16], true, rest)
      | none =>
        match readNumber 16 UInt16.size (some 4) true body with
        | none => ([], false, cs)
        | some (n, rest) =>
          let (groups, mapped, rest) := readGroups false limit rest
          (n.toUInt16 :: groups, mapped, rest)

/-- Reads an address of version 6. -/
def readIpv6 (cs : List Char) : Option (Ipv6 × List Char) := do
  let (head, mapped, rest) := readGroups true 8 cs
  if h : head.length = 8 then pure (⟨head, h⟩, rest)
  else if mapped then none
  else
    let rest ← readChar ':' (← readChar ':' rest)
    let (tail, _, rest) := readGroups true (7 - head.length) rest
    let groups := head ++ List.replicate (8 - head.length - tail.length) 0 ++ tail
    if h : groups.length = 8 then pure (⟨groups, h⟩, rest) else none

/-- Reads the port of a socket address and its end. -/
def readPort (cs : List Char) : Option UInt16 := do
  let (port, rest) ← readNumber 10 UInt16.size none true (← readChar ':' cs)
  if rest.isEmpty then pure port.toUInt16 else none

/-- Reads the scope of an address of version 6, if there is one. -/
def readScope (cs : List Char) : Option (UInt32 × List Char) :=
  match readChar '%' cs with
  | none => some (0, cs)
  | some cs => (readNumber 10 UInt32.size none true cs).map fun (n, cs) => (n.toUInt32, cs)

/-- Reads a socket address. -/
def SocketAddress.parse? (s : String) : Option SocketAddress :=
  match readIpv4 s.toList with
  | some (ip, rest) => (readPort rest).map (.v4 ip)
  | none => do
    let (ip, rest) ← readIpv6 (← readChar '[' s.toList)
    let (scope, rest) ← readScope rest
    let port ← readPort (← readChar ']' rest)
    pure (.v6 ip scope port)

end MapBallot.Net
