import MapBallot.Json.Printer
import MapBallot.Preview.Run

/-!
# `MapBallot.Main` — the preview as a program

The program reads the files that its arguments name, and prints what the preview shows, or why there
is none. It ends with 2 if the arguments ask for nothing and with 1 if there is no preview.
-/

namespace MapBallot.Main

open Files (ReadFault Reader)
open Preview (Arguments Failure UsageError)

/-- The wording of a usage error. -/
def usageMessage : UsageError → String
  | .unknownArgument a => "unexpected argument '" ++ a ++ "' found"
  | .missingValue o => "a value is required for '--" ++ o ++ "' but none was supplied"
  | .unexpectedValue o v => "unexpected value '" ++ v ++ "' for '--" ++ o ++ "' found"
  | .invalidValue o v => "invalid value '" ++ v ++ "' for '--" ++ o ++ "'"
  | .repeated o => "the argument '--" ++ o ++ "' cannot be used multiple times"
  | .conflict a b => "the argument '--" ++ a ++ "' cannot be used with '--" ++ b ++ "'"
  | .missingOption o => "the required argument '--" ++ o ++ "' was not provided"
  | .helpRequested => "Offline votemap selection preview"
  | .versionRequested => "votemap_preview 0.1.0"

/-- The reason for which the operating system gave no file. -/
def readFault : IO.Error → ReadFault
  | .noFileOrDirectory .. => .notFound
  | .inappropriateType .. => .isDirectory
  | e => .other (toString e)

/-- Reads a file as a text. -/
def readFile (path : String) : IO (Except ReadFault String) := do
  try
    let bytes ← IO.FS.readBinFile path
    match String.fromUTF8? bytes with
    | some text => pure (.ok text)
    | none => pure (.error .invalidText)
  catch e => pure (.error (readFault e))

/-- Reads the files with these paths. -/
def readFiles (paths : List String) : IO Reader := do
  let contents ← paths.mapM fun path => do pure (path, ← readFile path)
  pure fun path => (contents.find? (·.1 == path)).elim (.error .notFound) (·.2)

/-- Random words from a seed that nobody chose. -/
def freshStream : IO RandomStream := do
  let bytes ← IO.getRandomBytes 8
  pure (.ofSeed (bytes.toList.foldl (fun n b => n * 256 + b.toUInt64) 0))

/-- Prints what went wrong and what led to it. -/
def printFailure (f : Failure) : IO Unit := do
  IO.eprintln ("Error: " ++ f.message)
  unless f.causes.isEmpty do
    IO.eprintln "\nCaused by:"
    for cause in f.causes do
      IO.eprintln ("    " ++ cause.text)

/-- Runs the preview. -/
def run (arguments : List String) : IO UInt32 := do
  match Arguments.parse arguments with
  | .error .helpRequested =>
    IO.println (usageMessage .helpRequested)
    pure 0
  | .error .versionRequested =>
    IO.println (usageMessage .versionRequested)
    pure 0
  | .error e =>
    IO.eprintln ("error: " ++ usageMessage e)
    pure 2
  | .ok a =>
    let read ← readFiles ([a.weighting, a.catalog, a.history].filterMap id)
    match Preview.run read .epoch (← freshStream) a with
    | .ok shown =>
      IO.println shown.printLines
      pure 0
    | .error f =>
      printFailure f
      pure 1

end MapBallot.Main

/-- Runs the preview with the arguments of the command line. -/
def main (arguments : List String) : IO UInt32 := MapBallot.Main.run arguments
