import MapBallot.Environment
import MapBallot.Identifier
import MapBallot.Text.Blank
import MapBallot.Text.Unsigned

/-!
# `MapBallot.Command` — the lines that operators type

A command is a verb and its arguments, separated by blanks. Verbs may be typed in any ASCII case.

## Contents

* `Command` — what may be asked;
* `CommandError` — why a line asks for nothing, with its wording;
* `Command.ofWords`, `Command.parse` — reading a line.
-/

namespace MapBallot

open Text (UnsignedFault)

/-- What operators may ask. -/
inductive Command
  | roundStart (map : String) (environment : Environment) (roundIndex : UInt64)
      (layerId : Option String)
  | preview
  | reload
  | status
  | shutdown
  deriving DecidableEq, Repr

/-- Why a line asks for nothing. -/
inductive CommandError
  | empty
  | unknownCommand (verb : String)
  | missingArgument (name : String)
  | invalidInteger (value context : String) (fault : UnsignedFault)
  | invalidEnvironment (value : String)
  | invalidIdentifier (value : String)
  deriving DecidableEq, Repr

/-- The wording of a refused line. -/
def CommandError.message : CommandError → String
  | .empty => "empty command"
  | .unknownCommand verb => "unknown command: " ++ verb
  | .missingArgument name => "missing argument: " ++ name
  | .invalidInteger value context fault =>
    "invalid integer '" ++ value ++ "' for " ++ context ++ ": " ++ fault.message
  | .invalidEnvironment value => "invalid environment '" ++ value ++ "'"
  | .invalidIdentifier value => "invalid map identifier '" ++ value ++ "'"

namespace Command

/-- An identifier among the arguments. -/
def identifier (s : String) : Except CommandError String :=
  if isIdentifier s then .ok s else .error (.invalidIdentifier s)

/-- A round index among the arguments. -/
def roundIndex (s : String) : Except CommandError UInt64 :=
  match Text.parseUnsigned UInt64.size s with
  | .ok n => .ok n.toUInt64
  | .error fault => .error (.invalidInteger s "round index" fault)

/-- An environment among the arguments. -/
def environment (s : String) : Except CommandError Environment :=
  match Environment.parse s with
  | .ok e => .ok e
  | .error _ => .error (.invalidEnvironment s)

/-- The arguments of a round start: map, environment and round index, and perhaps the layer. All
must be there before any of them is checked. What follows the layer is not read. -/
def roundStartOf : List String → Except CommandError Command
  | [] => .error (.missingArgument "map")
  | [_] => .error (.missingArgument "environment")
  | [_, _] => .error (.missingArgument "round_index")
  | map :: environmentText :: indexText :: rest => do
    let map ← identifier map
    let environment ← environment environmentText
    let index ← roundIndex indexText
    let layerId ← rest.head?.mapM identifier
    pure (.roundStart map environment index layerId)

/-- The command that words spell. -/
def ofWords : List String → Except CommandError Command
  | [] => .error .empty
  | verb :: arguments =>
    match asciiLower verb with
    | "round_start" | "round" => roundStartOf arguments
    | "preview" => .ok .preview
    | "reload" => .ok .reload
    | "status" => .ok .status
    | "shutdown" | "quit" => .ok .shutdown
    | other => .error (.unknownCommand other)

/-- The command of a line. -/
def parse (line : String) : Except CommandError Command := ofWords (Text.splitWords line)

end Command

end MapBallot
