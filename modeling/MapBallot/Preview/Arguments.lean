import MapBallot.Text.Unsigned

/-!
# `MapBallot.Preview.Arguments` — the arguments of the offline preview

Options begin with two hyphens. Some are switches; the others take a value, after an equals sign or
as the next argument, which must not look like an option then. Nothing but the plan's shares may be
given twice, and there are no other arguments.

## Contents

* `Arguments` — what was asked for;
* `UsageError` — why the arguments ask for nothing;
* `Action`, `actions` — the options;
* `Arguments.parse` — reading the arguments.
-/

namespace MapBallot.Preview

/-- Why the arguments ask for nothing. -/
inductive UsageError
  | unknownArgument (argument : String)
  | missingValue (option : String)
  | unexpectedValue (option value : String)
  | invalidValue (option value : String)
  | repeated (option : String)
  | conflict (first second : String)
  | missingOption (option : String)
  /-- A text about the program was asked for. -/
  | helpRequested
  | versionRequested
  deriving DecidableEq, Repr

/-- What was asked for. -/
structure Arguments where
  weighting : Option String := none
  catalog : Option String := none
  history : Option String := none
  /-- The shares of the plan, as they were typed. -/
  options : List String := []
  horizon : Nat := 6
  retention : Nat := 10
  seed : Option UInt64 := none
  normalize : Bool := false
  excludeLast : Option UInt64 := none
  noExclusions : Bool := false
  scores : Bool := false
  printSchema : Bool := false
  deriving Repr

/-- What an option does with the arguments. -/
inductive Action
  /-- It stands alone. -/
  | switch (set : Arguments → Arguments)
  /-- It takes a value, which may be refused. -/
  | setting (set : String → Arguments → Option Arguments)

/-- A file path must not be empty. -/
def pathValue (s : String) : Option String := if s.isEmpty then none else some s

/-- A whole number of 64 bits without a sign. -/
def wordValue (s : String) : Option UInt64 :=
  (Text.parseUnsigned UInt64.size s).toOption.map Nat.toUInt64

/-- A whole number of 32 bits; zero may have either sign. -/
def horizonValue (s : String) : Option Nat :=
  match s.toList with
  | '-' :: cs =>
    match Text.parseUnsigned (UInt64.size / 2) (String.ofList cs) with
    | .ok 0 => if cs.head? == some '+' then none else some 0
    | _ => none
  | _ => (Text.parseUnsigned UInt32.size s).toOption

/-- The options. -/
def actions : List (String × Action) := [
  ("weighting", .setting fun s a => (pathValue s).map fun p => { a with weighting := some p }),
  ("catalog", .setting fun s a => (pathValue s).map fun p => { a with catalog := some p }),
  ("history", .setting fun s a => (pathValue s).map fun p => { a with history := some p }),
  ("option", .setting fun s a => some { a with options := a.options ++ [s] }),
  ("horizon", .setting fun s a => (horizonValue s).map fun n => { a with horizon := n }),
  ("retention", .setting fun s a => (wordValue s).map fun n => { a with retention := n.toNat }),
  ("seed", .setting fun s a => (wordValue s).map fun n => { a with seed := some n }),
  ("normalize", .switch fun a => { a with normalize := true }),
  ("exclude-last", .setting fun s a => (wordValue s).map fun n => { a with excludeLast := some n }),
  ("no-exclusions", .switch fun a => { a with noExclusions := true }),
  ("scores", .switch fun a => { a with scores := true }),
  ("print-schema", .switch fun a => { a with printSchema := true })]

/-- The only option that may be given more than once. -/
def repeatable : String := "option"

/-- Cuts an option into its name and the value after an equals sign. -/
def splitValue (cs : List Char) : String × Option String :=
  let name := String.ofList (cs.takeWhile (· != '='))
  match cs.dropWhile (· != '=') with
  | [] => (name, none)
  | _ :: value => (name, some (String.ofList value))

/-- An argument that looks like an option cannot be a value. A hyphen alone can. -/
def looksLikeOption (s : String) : Bool := s.startsWith "-" && s != "-"

/-- Reads the arguments one after the other; `given` are the options so far. -/
def readAll : List String → List String → Arguments → Except UsageError (List String × Arguments)
  | given, [], a => .ok (given, a)
  | given, argument :: rest, a =>
    match argument.toList with
    | ['-', '-'] =>
      match rest with
      | [] => .ok (given, a)
      | extra :: _ => .error (.unknownArgument extra)
    | '-' :: '-' :: cs =>
      let (name, value) := splitValue cs
      match actions.find? (·.1 == name) with
      | none =>
        if name == "help" && value.isNone then .error .helpRequested
        else if name == "version" && value.isNone then .error .versionRequested
        else .error (.unknownArgument argument)
      | some (_, .switch set) =>
        match value with
        | some v => .error (.unexpectedValue name v)
        | none =>
          if given.contains name then .error (.repeated name)
          else readAll (name :: given) rest (set a)
      | some (_, .setting set) =>
        if name != repeatable && given.contains name then .error (.repeated name)
        else
          match value, rest with
          | some v, rest =>
            match set v a with
            | some a => readAll (name :: given) rest a
            | none => .error (.invalidValue name v)
          | none, v :: rest =>
            if looksLikeOption v then .error (.missingValue name)
            else
              match set v a with
              | some a => readAll (name :: given) rest a
              | none => .error (.invalidValue name v)
          | none, [] => .error (.missingValue name)
    | '-' :: 'h' :: _ => .error .helpRequested
    | '-' :: 'V' :: _ => .error .versionRequested
    | _ => .error (.unknownArgument argument)
termination_by _ arguments _ => arguments.length

/-- Reads the arguments. There must be a catalog, unless only the schema is wanted, and the two
options about exclusions exclude each other. -/
def Arguments.parse (arguments : List String) : Except UsageError Arguments :=
  match readAll [] arguments {} with
  | .error e => .error e
  | .ok (given, a) =>
    if given.contains "exclude-last" && given.contains "no-exclusions" then
      .error (.conflict "exclude-last" "no-exclusions")
    else if a.catalog.isNone && !a.printSchema then .error (.missingOption "catalog")
    else .ok a

end MapBallot.Preview
