import MapBallot.Net.Url
import MapBallot.Text.Blank
import MapBallot.Text.Quoted
import MapBallot.Text.Unsigned

/-!
# `MapBallot.Remote.Connection` — where and how to reach the remote tool

A connection has a base address, to which the calls are relative, a key that proves who is calling,
and a time after which a call is given up. The base address always ends with a slash.

## Contents

* `ConnectionError` — why there is no connection, with its wording;
* `Connection`, `Connection.make`, `Connection.ofVariables`;
* `Connection.authorization` — how calls present themselves;
* `Connection.shown` — a connection in log entries, without the key.
-/

namespace MapBallot.Remote

open Net (Url)

/-- Why there is no connection. -/
inductive ConnectionError
  | missingVariable (name : String)
  | invalidUrl (value : String) (error : Net.UrlError)
  | invalidValue (variableName value : String)
  | invalidApiKey
  deriving DecidableEq, Repr

/-- The wording of a connection error. -/
def ConnectionError.message : ConnectionError → String
  | .missingVariable name => "environment variable " ++ name ++ " is not set"
  | .invalidUrl value e => "invalid remote tool url '" ++ value ++ "': " ++ e.message
  | .invalidValue variableName value => "invalid value '" ++ value ++ "' for " ++ variableName
  | .invalidApiKey => "api key contains characters that are not allowed in an HTTP header"

/-- Where and how to reach the remote tool. -/
structure Connection where
  base : Url
  key : String
  /-- The time after which a call is given up, in milliseconds. -/
  timeout : Nat
  deriving DecidableEq, Repr

namespace Connection

/-- The time after which a call is given up unless told otherwise. -/
def defaultTimeout : Nat := 10000

/-- An address without blanks around it and with a slash at its end. -/
def normalized (address : String) : String :=
  let address := Text.trimmed address
  if address.endsWith "/" then address else address ++ "/"

/-- A connection to an address. -/
def make (address key : String) (timeout : Nat) : Except ConnectionError Connection :=
  match Url.parse (normalized address) with
  | .ok base => .ok ⟨base, key, timeout⟩
  | .error e => .error (.invalidUrl address e)

/-- The value of a variable that must be set. -/
def variableOf (environment : String → Option String) (name : String) :
    Except ConnectionError String :=
  match environment name with
  | some value => .ok value
  | none => .error (.missingVariable name)

/-- The connection that the variables of an environment describe. -/
def ofVariables (environment : String → Option String) : Except ConnectionError Connection := do
  let address ← variableOf environment "CRCON_API_URL"
  let key ← variableOf environment "CRCON_API_KEY"
  let timeout ← match environment "CRCON_TIMEOUT_MS" with
    | none => pure defaultTimeout
    | some raw =>
      match Text.parseUnsigned UInt64.size (Text.trimmed raw) with
      | .ok n => pure n
      | .error _ => throw (.invalidValue "CRCON_TIMEOUT_MS" raw)
  make address key timeout

/-- Headers hold no control but the tab. -/
def isHeaderChar (c : Char) : Bool := c == '\t' || (0x20 ≤ c.toNat && c.toNat != 0x7F)

/-- How calls present themselves. -/
def authorization (c : Connection) : Except ConnectionError String :=
  let header := "Bearer " ++ c.key
  if header.toList.all isHeaderChar then .ok header else .error .invalidApiKey

/-- A span of milliseconds, in seconds if it has one. -/
def shownSpan (millis : Nat) : String :=
  if millis == 0 then "0ns"
  else if millis < 1000 then toString millis ++ "ms"
  else
    let rest := millis % 1000
    let digits := [rest / 100, rest / 10 % 10, rest % 10]
    let kept := (digits.reverse.dropWhile (· == 0)).reverse
    let fraction := if kept.isEmpty then "" else "." ++ String.join (kept.map toString)
    toString (millis / 1000) ++ fraction ++ "s"

/-- A connection in log entries. -/
def shown (c : Connection) : String :=
  "CrconConnection \x7b api_url: " ++ Text.quote c.base.text ++
    ", api_key: \"<redacted>\", timeout: " ++ shownSpan c.timeout ++ " \x7d"

end Connection

end MapBallot.Remote
