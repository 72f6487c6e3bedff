import MapBallot.Event
import MapBallot.Files.Path
import MapBallot.Weighting.Builtin

/-!
# `MapBallot.Weighting.Store` — the parameters in force

The store holds one generation of weighting parameters at a time. Every replacement installs a whole
validated generation with the next version number; a failed one leaves the generation in force as it
was. Parameters that were read from a file know its path, so that the file can be read again.

## Contents

* `Generation`, `Generation.first`, `Generation.install`;
* `Attempt`, `Attempt.current` — a replacement that may fail;
* `Generation.replaceFromText`, `Generation.reloadFrom`, `Generation.reload`;
* `Generation.load` — the generation to start with;
* `Generation.watched?`, `Generation.seesChange` — which changes of files reload the parameters.
-/

namespace MapBallot.Weighting

open Files (Path Reader)

/-- The target of log entries about configuration. -/
def configTarget : String := "votemap::config"

/-- The parameters in force. -/
structure Generation where
  version : Nat
  parameters : Parameters Float
  /-- The file that the parameters were read from, or are to be read from. -/
  source : Option String := none

/-- A replacement of the parameters in force, with its log. -/
structure Attempt where
  outcome : Except (Problem Float) Generation
  log : List Event

/-- The generation in force after an attempt: the new one, or the one before. -/
def Attempt.current (a : Attempt) (before : Generation) : Generation :=
  match a.outcome with
  | .ok g => g
  | .error _ => before

/-- The parameters that a file describes. -/
def Parameters.ofFile (read : Reader) (path : String) : Except (Problem Float) (Parameters Float) :=
  match read path with
  | .ok text => ofText text
  | .error fault => .error (.unreadable path fault)

namespace Generation

/-- The first generation. -/
def first (parameters : Parameters Float) (source : Option String) : Generation :=
  ⟨1, parameters, source⟩

/-- The first generation when no document is configured. -/
def builtin : Generation := first .builtin none

/-- The generation after this one. -/
def install (g : Generation) (parameters : Parameters Float) (source : Option String) :
    Generation :=
  ⟨g.version + 1, parameters, source⟩

/-- The log entry of a new generation. -/
def installedEvent (g : Generation) : Event :=
  ⟨.info, configTarget, "weighting.replaced",
    [("version", toString g.version), ("source", Text.showOption (g.source.map Text.quote))]⟩

/-- Installs given parameters. -/
def replace (g : Generation) (parameters : Parameters Float) (source : Option String) : Attempt :=
  let next := g.install parameters source
  ⟨.ok next, [next.installedEvent]⟩

/-- Installs the parameters that a text describes; the source stays. -/
def replaceFromText (g : Generation) (text : String) : Attempt :=
  match Parameters.ofText text with
  | .ok parameters => g.replace parameters g.source
  | .error problem =>
    ⟨.error problem,
      [⟨.warn, configTarget, "weighting.replace_rejected", [("error", problem.text)]⟩]⟩

/-- Installs the parameters that a file describes; the file becomes the source. -/
def reloadFrom (g : Generation) (read : Reader) (path : String) : Attempt :=
  match Parameters.ofFile read path with
  | .ok parameters => g.replace parameters (some path)
  | .error problem =>
    ⟨.error problem, [⟨.warn, configTarget, "weighting.reload_failed",
      [("path", path), ("error", problem.text)]⟩]⟩

/-- Reads the source again. Parameters without a source stay in force. -/
def reload (g : Generation) (read : Reader) : Attempt :=
  match g.source with
  | some path => g.reloadFrom read path
  | none => ⟨.ok g, [⟨.info, configTarget, "weighting.reload_skipped=no_source",
      [("version", toString g.version)]⟩]⟩

/-- The generation to start with: that of the configured file, or the builtin one. A configured file
that cannot be loaded is the source nevertheless, so that it is read once it was mended. -/
def load (read : Reader) (configured : Option String) : Generation × List Event :=
  match configured with
  | none => (builtin, [⟨.info, configTarget, "weighting.loaded=builtin", []⟩])
  | some path =>
    match Parameters.ofFile read path with
    | .ok parameters =>
      (first parameters (some path),
        [⟨.info, configTarget, "weighting.loaded=file", [("path", path)]⟩])
    | .error problem =>
      (first .builtin (some path),
        [⟨.warn, configTarget, "weighting.load_failed", [("path", path), ("error", problem.text)]⟩,
          ⟨.info, configTarget, "weighting.loaded=builtin_until_reload", [("path", path)]⟩])

/-! ## Watching the source -/

/-- The directory that is watched for changes of the source. -/
def watched? (g : Generation) : Option String := g.source.map Path.directory

/-- Whether a change of the named file in the watched directory is one of the source. -/
def seesChange (g : Generation) (name : String) : Bool :=
  match g.source with
  | none => false
  | some path => (Path.parse path).fileName? == (Path.parse name).fileName?

/-- The log entry of a new watch. -/
def watchingEvent (path : String) : Event :=
  ⟨.info, configTarget, "weighting.watching", [("path", path)]⟩

end Generation

end MapBallot.Weighting
