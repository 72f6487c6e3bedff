/-!
# `MapBallot.Files.Path` — the parts of a file path

A path is a sequence of components between slashes. Empty components say nothing, and neither does a
component that is a single dot, unless it opens a relative path.

## Contents

* `Path`, `Path.parse`, `Path.text`;
* `Path.parent?`, `Path.fileName?` — the directory of a file and its name in it;
* `Path.directory` — where to look for changes of a file.
-/

namespace MapBallot.Files

/-- A path taken apart. -/
structure Path where
  absolute : Bool
  components : List String
  deriving DecidableEq, Repr

namespace Path

/-- Takes a path apart. -/
def parse (s : String) : Path :=
  let parts := s.splitOn "/"
  let kept := parts.filter fun c => c != "" && c != "."
  { absolute := s.startsWith "/"
    components := if parts.head? == some "." then "." :: kept else kept }

/-- Puts a path together. -/
def text (p : Path) : String :=
  (if p.absolute then "/" else "") ++ "/".intercalate p.components

/-- The path without its last component. -/
def parent? (p : Path) : Option Path :=
  if p.components.isEmpty then none else some { p with components := p.components.dropLast }

/-- The last component, if it names an entry of a directory. -/
def fileName? (p : Path) : Option String :=
  match p.components.getLast? with
  | some ".." | some "." | none => none
  | some name => some name

/-- The directory in which changes of a file show. -/
def directory (file : String) : String :=
  match (parse file).parent? with
  | none => "."
  | some p => if p.text.isEmpty then "." else p.text

end Path

end MapBallot.Files
