import MapBallot.Net.Address
import MapBallot.Net.DomainName

/-!
# `MapBallot.Net.Host` — the host of an address on the web

A host is a domain, an address of version 4, which may be written with fewer than four numbers and
in other bases, or an address of version 6 in brackets.

## Contents

* `percentEncode`, `percentDecode` — bytes that may not stand for themselves;
* `HostError`, `Host`, `Host.text`;
* `Host.parse` — reading a host.
-/

namespace MapBallot.Net

/-! ## Percent encoding -/

/-- A digit of a byte in hexadecimal, in upper case. -/
def upperHex (n : Nat) : Char :=
  if n < 10 then Char.ofNat ('0'.toNat + n) else Char.ofNat ('A'.toNat + (n - 10))

/-- The bytes of a text, each of them by itself or after a percent sign. Controls and bytes beyond
ASCII never stand for themselves. -/
def percentEncode (reserved : List Char) (cs : List Char) : List Char :=
  cs.flatMap fun c =>
    if c.toNat < 0x20 || 0x7F ≤ c.toNat || reserved.contains c then
      (String.singleton c).toUTF8.toList.flatMap fun b =>
        ['%', upperHex (b.toNat / 16), upperHex (b.toNat % 16)]
    else [c]

/-- The bytes that a text with percent signs stands for. -/
def percentDecode : List Char → List UInt8
  | '%' :: a :: b :: cs =>
    match digitValue? 16 a, digitValue? 16 b with
    | some x, some y => (16 * x + y).toUInt8 :: percentDecode cs
    | _, _ => '%'.toNat.toUInt8 :: percentDecode (a :: b :: cs)
  | c :: cs => (String.singleton c).toUTF8.toList ++ percentDecode cs
  | [] => []

/-! ## Hosts -/

/-- Why a text is no host. -/
inductive HostError
  | empty
  | invalidName
  | invalidCharacter
  | invalidIpv4
  | invalidIpv6
  deriving DecidableEq, Repr

/-- The wording of a host error. -/
def HostError.message : HostError → String
  | .empty => "empty host"
  | .invalidName => "invalid international domain name"
  | .invalidCharacter => "invalid domain character"
  | .invalidIpv4 => "invalid IPv4 address"
  | .invalidIpv6 => "invalid IPv6 address"

/-- A host. -/
inductive Host
  | domain (name : String)
  | v4 (ip : Ipv4)
  | v6 (ip : Ipv6)
  deriving DecidableEq, Repr

/-- The text of a host. -/
def Host.text : Host → String
  | .domain name => name
  | .v4 ip => ip.text
  | .v6 ip => "[" ++ compressedText ip.groups ++ "]"

/-! ## Addresses of version 4 -/

/-- Reads a number of an address: hexadecimal after `0x`, octal after a zero, else decimal. `none`
is no number, `some none` one of more than 32 bits. -/
def readIpv4Number (cs : List Char) : Option (Option Nat) :=
  let (base, digits) := match cs with
    | '0' :: 'x' :: rest | '0' :: 'X' :: rest => (16, rest)
    | '0' :: d :: rest => (8, d :: rest)
    | cs => (10, cs)
  if cs.isEmpty then none
  else if digits.isEmpty then some (some 0)
  else
    match digits.mapM (digitValue? base) with
    | none => none
    | some ns =>
      let n := ofDigits base ns
      some (if n < UInt32.size then some n else none)

/-- A domain whose last label is a number is meant as an address. -/
def endsInNumber (labels : List (List Char)) : Bool :=
  let labels := if labels.getLast? == some [] then labels.dropLast else labels
  match labels.getLast? with
  | none => false
  | some label => (!label.isEmpty && label.all Char.isDigit) || (readIpv4Number label).isSome

/-- Puts an address together from at most four numbers; the last one fills the bytes that are left.
-/
def ipv4OfNumbers (numbers : List Nat) : Option Ipv4 :=
  match numbers.getLast? with
  | none => none
  | some last =>
    let first := numbers.dropLast
    if 3 < first.length || first.any (255 < ·) || Nat.pow 256 (4 - first.length) ≤ last then none
    else
      let value := first.zipIdx.foldl (fun value (n, i) => value + n * Nat.pow 256 (3 - i)) last
      some ⟨(value / 0x1000000).toUInt8, (value / 0x10000).toUInt8, (value / 0x100).toUInt8,
        value.toUInt8⟩

/-- Reads an address of version 4 from the labels of a domain. -/
def ipv4OfLabels (labels : List (List Char)) : Option Ipv4 := do
  let labels := if labels.getLast? == some [] then labels.dropLast else labels
  let numbers ← labels.mapM fun label => (readIpv4Number label).bind id
  ipv4OfNumbers numbers

/-- Reads a whole address of version 6. -/
def ipv6OfChars (cs : List Char) : Option Ipv6 := do
  let (ip, rest) ← readIpv6 cs
  if rest.isEmpty then pure ip else none

namespace Host

/-- Reads an address of version 6 in brackets. -/
def parseBracketed (cs : List Char) : Except HostError Host :=
  match cs.getLast?, ipv6OfChars cs.dropLast with
  | some ']', some ip => .ok (.v6 ip)
  | _, _ => .error .invalidIpv6

/-- Reads the host of an address that is looked up in the domain name system. -/
def parse (cs : List Char) : Except HostError Host :=
  match cs with
  | '[' :: rest => parseBracketed rest
  | cs =>
    match (String.fromUTF8? ⟨(percentDecode cs).toArray⟩).bind fun s => asciiDomain? s.toList with
    | none => .error .invalidName
    | some [] => .error .empty
    | some name =>
      let labels := splitBy (· == '.') name
      if endsInNumber labels then
        match ipv4OfLabels labels with
        | some ip => .ok (.v4 ip)
        | none => .error .invalidIpv4
      else .ok (.domain (String.ofList name))

/-- Reads the host of any other address, which is kept as it is. -/
def parseLiteral (cs : List Char) : Except HostError Host :=
  match cs with
  | '[' :: rest => parseBracketed rest
  | cs =>
    if cs.any fun c => "\x00\t\n\r #/:<>?@[\\]^|".toList.contains c then .error .invalidCharacter
    else .ok (.domain (String.ofList (percentEncode [] cs)))

end Host

end MapBallot.Net
