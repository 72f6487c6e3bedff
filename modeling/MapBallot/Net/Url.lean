import MapBallot.Net.Host

/-!
# `MapBallot.Net.Url` — addresses on the web

An address has a scheme, for most schemes a host, and a path; a query and a fragment may follow.
Schemes of the web are special: they always have a host and a path, their slashes may lean either
way, and each has a port that is not written. The address of a file may have no host, and its path
may begin with the letter of a drive, which no path leads above.

## Contents

* `UrlError` — why a text is no address, with its wording;
* `Authority`, `UrlPath`, `Url`, `Url.text`;
* `readAuthority` — the host, the port, and how to present oneself;
* `isDrive`, `enter`, `follow` — paths, segment by segment;
* `readFile`, `readHosted`, `Url.parse` — reading an address;
* `relativePath`, `Url.join` — an address relative to another.
-/

namespace MapBallot.Net

/-- Why a text is no address. -/
inductive UrlError
  | host (error : HostError)
  | invalidPort
  | relativeWithoutBase
  deriving DecidableEq, Repr

/-- The wording of an address error. -/
def UrlError.message : UrlError → String
  | .host e => e.message
  | .invalidPort => "invalid port number"
  | .relativeWithoutBase => "relative URL without a base"

/-- The host of an address, and how to present oneself there. -/
structure Authority where
  user : String := ""
  password : String := ""
  host : Host
  port : Option Nat := none
  deriving DecidableEq, Repr

/-- The path of an address. -/
inductive UrlPath
  /-- Not divided into segments; nothing can be relative to it. -/
  | rootless (text : String)
  | segments (names : List String)
  deriving DecidableEq, Repr

/-- An address. -/
structure Url where
  scheme : String
  authority : Option Authority := none
  path : UrlPath
  query : Option String := none
  fragment : Option String := none
  deriving DecidableEq, Repr

/-! ## Writing -/

/-- The text of an authority. -/
def Authority.text (a : Authority) : String :=
  let password := if a.password.isEmpty then "" else ":" ++ a.password
  let present := if a.user.isEmpty && a.password.isEmpty then "" else a.user ++ password ++ "@"
  present ++ a.host.text ++ (a.port.elim "" fun p => ":" ++ toString p)

/-- The text of a path. -/
def UrlPath.text : UrlPath → String
  | .rootless text => text
  | .segments names => String.join (names.map ("/" ++ ·))

namespace Url

/-- The text of an address. A path that begins with two slashes is kept apart from the scheme. -/
def text (u : Url) : String :=
  let start := match u.authority, u.path with
    | some a, _ => "//" ++ a.text
    | none, .segments ("" :: _ :: _) => "/."
    | none, _ => ""
  u.scheme ++ ":" ++ start ++ u.path.text ++ (u.query.elim "" ("?" ++ ·)) ++
    (u.fragment.elim "" ("#" ++ ·))

/-! ## Reading -/

/-- The special schemes, with the ports that are not written. -/
def specialSchemes : List (String × Option Nat) :=
  [("http", some 80), ("https", some 443), ("ws", some 80), ("wss", some 443), ("ftp", some 21),
    ("file", none)]

/-- A scheme of the web. -/
def isSpecial (scheme : String) : Bool := specialSchemes.any (·.1 == scheme)

/-- The port that is not written. -/
def defaultPort? (scheme : String) : Option Nat :=
  (specialSchemes.find? (·.1 == scheme)).bind (·.2)

/-- A control or a space. -/
def isMargin (c : Char) : Bool := c.toNat ≤ 0x20

/-- The characters of an address: without the controls and spaces around it, and without tabs and
line ends. -/
def significant (s : String) : List Char :=
  let cs := (s.toList.dropWhile isMargin).reverse.dropWhile isMargin |>.reverse
  cs.filter fun c => c != '\t' && c != '\n' && c != '\r'

/-- Reads a scheme and the colon after it. -/
def readScheme (cs : List Char) : Option (String × List Char) :=
  let isSchemeChar (c : Char) : Bool := c.isAlphanum || c == '+' || c == '-' || c == '.'
  match cs.takeWhile isSchemeChar, cs.dropWhile isSchemeChar with
  | c :: name, ':' :: rest =>
    if c.isAlpha then some (String.ofList ((c :: name).map Char.toLower), rest) else none
  | _, _ => none

/-- Whether a character is a slash of a path. -/
def isSlash (special : Bool) (c : Char) : Bool := c == '/' || (special && c == '\\')

/-- Whether a character ends the authority. -/
def endsAuthority (special : Bool) (c : Char) : Bool := isSlash special c || c == '?' || c == '#'

/-- What is reserved in a fragment, a path, a user name, and a query. -/
def fragmentReserved : List Char := [' ', '"', '<', '>', '\x60']

/-- What may not stand for itself in a path. -/
def pathReserved : List Char := fragmentReserved ++ ['#', '?', '\x7b', '\x7d']

/-- What may not stand for itself in a user name or a password. -/
def userReserved : List Char := pathReserved ++ ['/', ':', ';', '=', '@', '[', '\\', ']', '^', '|']

/-- What may not stand for itself in a query. -/
def queryReserved (special : Bool) : List Char :=
  [' ', '"', '#', '<', '>'] ++ if special then ['\''] else []

/-- Cuts a text at the last at sign, if there is one. -/
def splitAtSign (cs : List Char) : Option (List Char) × List Char :=
  match cs.reverse.dropWhile (· != '@') with
  | [] => (none, cs)
  | _ :: before => (some before.reverse, (cs.reverse.takeWhile (· != '@')).reverse)

/-- Cuts a host from its port: at the first colon outside brackets. -/
def splitPort : Bool → List Char → List Char × Option (List Char)
  | _, [] => ([], none)
  | inside, c :: cs =>
    if c == ':' && !inside then ([], some cs)
    else
      let inside := c == '[' || (inside && c != ']')
      let (host, port) := splitPort inside cs
      (c :: host, port)

/-- Reads a port, which is at most 65535; the one that is not written counts as none. -/
def readPort (scheme : String) (cs : List Char) : Except UrlError (Option Nat) :=
  if cs.isEmpty then .ok none
  else
    match cs.mapM (digitValue? 10) with
    | none => .error .invalidPort
    | some ns =>
      let n := ofDigits 10 ns
      if UInt16.size ≤ n then .error .invalidPort
      else .ok (if defaultPort? scheme == some n then none else some n)

/-- Reads a host. -/
def readHost (special : Bool) (cs : List Char) : Except UrlError Host :=
  match (if special then Host.parse cs else Host.parseLiteral cs) with
  | .ok h => .ok h
  | .error e => .error (.host e)

/-- Reads an authority, and gives what of its text belongs to the path: a port ends at a slash that
leans either way. -/
def readAuthority (scheme : String) (cs : List Char) :
    Except UrlError (Authority × List Char) := do
  let special := isSpecial scheme
  let (present, rest) := splitAtSign cs
  let (hostText, portText) := splitPort false rest
  let encoded (cs : List Char) : String := String.ofList (percentEncode userReserved cs)
  let user := encoded ((present.getD []).takeWhile (· != ':'))
  let password := encoded (((present.getD []).dropWhile (· != ':')).drop 1)
  let anonymous := user.isEmpty && password.isEmpty
  if hostText.isEmpty && (special || portText.isSome || !anonymous || present == some []) then
    throw (.host .empty)
  let host ← readHost special hostText
  let port ← readPort scheme ((portText.getD []).takeWhile (· != '\\'))
  let authority : Authority := ⟨user, password, host, port⟩
  pure (authority, (portText.getD []).dropWhile (· != '\\'))

/-! ## Paths -/

/-- A segment that stands for the current one. -/
def isSingleDot (segment : String) : Bool :=
  let s := segment.toLower
  s == "." || s == "%2e"

/-- A segment that stands for the one above. -/
def isDoubleDot (segment : String) : Bool :=
  let s := segment.toLower
  s == ".." || s == ".%2e" || s == "%2e." || s == "%2e%2e"

/-- The letter of a drive, with a colon or a bar. -/
def isDrive (segment : List Char) : Bool :=
  match segment with
  | [c, mark] => c.isAlpha && (mark == ':' || mark == '|')
  | _ => false

/-- The letter of a drive as it is written, with a colon. -/
def isWrittenDrive (segment : List Char) : Bool := isDrive segment && segment.getLast? == some ':'

/-- The path above, which is the same for a path that ends with a drive. -/
def above (path : List String) : List String :=
  if path.getLast?.any fun s => isDrive s.toList then path else path.dropLast

/-- Follows one segment from a path. `last` says that no other segment comes after it, and `file`
that a drive at the start of the path is written with a colon. -/
def enter (file : Bool) (path : List String) (segment : String) (last : Bool) : List String :=
  let ending := if last then [""] else []
  if isDoubleDot segment then above path ++ ending
  else if isSingleDot segment then path ++ ending
  else if file && path.isEmpty && isDrive segment.toList then
    [String.ofList (segment.toList.take 1 ++ [':'])]
  else path ++ [segment]

/-- Follows segments from a path. -/
def follow (file : Bool) : List String → List String → List String
  | path, [] => path
  | path, s :: rest => follow file (enter file path s rest.isEmpty) rest

/-- The segments of a path, without the slash that it begins with. -/
def readSegments (special : Bool) (cs : List Char) : List String :=
  (splitBy (isSlash special) cs).map fun s => String.ofList (percentEncode pathReserved s)

/-- Cuts a text into what is before its query, the query, and the fragment. -/
def splitTail (cs : List Char) : List Char × Option (List Char) × Option (List Char) :=
  let main := cs.takeWhile (· != '#')
  let fragment := match cs.dropWhile (· != '#') with
    | [] => none
    | _ :: rest => some rest
  let path := main.takeWhile (· != '?')
  let query := match main.dropWhile (· != '?') with
    | [] => none
    | _ :: rest => some rest
  (path, query, fragment)

/-- A text without the slash that it begins with, if it does. -/
def dropSlash (special : Bool) : List Char → List Char
  | [] => []
  | c :: cs => if isSlash special c then cs else c :: cs

/-- The path of an address with a host. -/
def readPath (special : Bool) (cs : List Char) : UrlPath :=
  if cs.isEmpty then .segments (if special then [""] else [])
  else .segments (follow false [] (readSegments special (dropSlash special cs)))

/-- A path without the empty segments that it begins with, but for the last segment. -/
def dropEmpty : List String → List String
  | "" :: s :: rest => dropEmpty (s :: rest)
  | path => path

/-! ## Addresses -/

/-- The address of a file on a host, which is empty for this one. Of a path that begins with a drive
the host does not count. -/
def fileOn (host : Host) (path : List String) : Url :=
  let host := if path.head?.any fun s => isWrittenDrive s.toList then .domain "" else host
  { scheme := "file", authority := some { host := host }, path := .segments (dropEmpty path) }

/-- The address of a file, without its tail. What stands between two slashes and a third one is the
host, unless it is a drive. -/
def readFile (cs : List Char) : Except UrlError Url :=
  let path (cs : List Char) : List String := follow true [] (readSegments true cs)
  let here : Host := .domain ""
  match cs with
  | a :: b :: rest =>
    if !(isSlash true a && isSlash true b) then .ok (fileOn here (path (dropSlash true cs)))
    else
      let hostText := rest.takeWhile (!endsAuthority true ·)
      let after := rest.dropWhile (!endsAuthority true ·)
      if isDrive hostText then .ok (fileOn here (path rest))
      else if hostText.isEmpty then .ok (fileOn here (path after))
      else
        match readHost true hostText with
        | .error e => .error e
        | .ok host =>
          if host == .domain "localhost" then .ok (fileOn here (path after))
          else .ok (fileOn host (path (dropSlash true after)))
  | cs => .ok (fileOn here (path (dropSlash true cs)))

/-- The address of a scheme that has hosts, after the slashes that a host comes after. -/
def readHosted (scheme : String) (cs : List Char) : Except UrlError Url := do
  let special := isSpecial scheme
  let (authority, rest) ← readAuthority scheme (cs.takeWhile (!endsAuthority special ·))
  let path := readPath special (rest ++ cs.dropWhile (!endsAuthority special ·))
  pure { scheme := scheme, authority := some authority, path := path }

/-- An address without its tail. -/
def readHierarchy (scheme : String) (cs : List Char) : Except UrlError Url :=
  if scheme == "file" then readFile cs
  else if isSpecial scheme then readHosted scheme (cs.dropWhile (isSlash true))
  else
    match cs with
    | '/' :: '/' :: rest => readHosted scheme rest
    | '/' :: rest => .ok { scheme := scheme, path := readPath false ('/' :: rest) }
    | cs => .ok { scheme := scheme, path := .rootless (String.ofList (percentEncode [] cs)) }

/-- Reads an address. -/
def parse (s : String) : Except UrlError Url :=
  match readScheme (significant s) with
  | none => .error .relativeWithoutBase
  | some (scheme, rest) => do
    let (main, query, fragment) := splitTail rest
    let u ← readHierarchy scheme main
    let encoded (reserved : List Char) (cs : List Char) : String :=
      String.ofList (percentEncode reserved cs)
    pure { u with
      query := query.map (encoded (queryReserved (isSpecial scheme)))
      fragment := fragment.map (encoded fragmentReserved) }

/-- The path of relative segments. They take the place of the last segment of a path, unless that is
the drive of a file: a drive alone is kept, and one further down is continued. -/
def relativePath (file : Bool) (names segments : List String) : List String :=
  match names.getLast? with
  | none => follow file [] segments
  | some last =>
    if !(file && isWrittenDrive last.toList) then follow file names.dropLast segments
    else if names.length == 1 then follow file names segments
    else
      match segments with
      | [] => names
      | s :: rest => follow file (names.dropLast ++ [last ++ s]) rest

/-- The address of a path that is relative to the last slash of another address; none if that has no
segments. -/
def join (u : Url) (relative : String) : Option Url :=
  match u.path with
  | .rootless _ => none
  | .segments names =>
    let segments := readSegments (isSpecial u.scheme) relative.toList
    some { u with
      path := .segments (relativePath (u.scheme == "file") names segments)
      query := none
      fragment := none }

end Url

end MapBallot.Net
