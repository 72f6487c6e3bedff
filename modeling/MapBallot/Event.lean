/-!
# `MapBallot.Event` — log entries

The service tells what it does in log entries: a level, the part of the service, a message and named
fields. Entries are values that the operations return or emit, in order.
-/

namespace MapBallot

/-- How urgent a log entry is. -/
inductive Level
  | debug
  | info
  | warn
  | error
  deriving DecidableEq, Repr

/-- The name of a level. -/
def Level.name : Level → String
  | debug => "debug"
  | info => "info"
  | warn => "warn"
  | error => "error"

/-- A log entry. -/
structure Event where
  level : Level
  target : String
  message : String
  fields : List (String × String) := []
  deriving DecidableEq, Repr

end MapBallot
