import MapBallot.Files.ReadFault

/-!
# `MapBallot.Files.Directory` — files that are held in memory

A directory holds files and further directories under paths of components. Paths are followed the
way the operating system does it: component by component, each from a directory.

## Contents

* `Entry`, `Directory`, `Directory.put`, `Directory.remove`;
* `Directory.resolve`, `Directory.find` — what stands at a path;
* `Directory.reader` — reading files as texts.
-/

namespace MapBallot.Files

/-- What stands at a path. -/
inductive Entry
  | file (bytes : List UInt8)
  | directory

/-- Files and directories, each under its path from here. -/
structure Directory where
  entries : List (List String × Entry)

namespace Directory

/-- A directory without files. -/
def empty : Directory := ⟨[]⟩

/-- The components of a path that name something. -/
def componentsOf (path : String) : List String :=
  (path.splitOn "/").filter fun c => c != "" && c != "."

/-- The directory without what stands at a path. -/
def remove (d : Directory) (path : String) : Directory :=
  ⟨d.entries.filter (·.1 != componentsOf path)⟩

/-- The directory with something else at a path. -/
def put (d : Directory) (path : String) (e : Entry) : Directory :=
  ⟨(d.remove path).entries ++ [(componentsOf path, e)]⟩

/-- What stands under a key. A key of which others are continuations is a directory. -/
def entry? (d : Directory) (key : List String) : Option Entry :=
  if key.isEmpty then some .directory
  else
    match d.entries.find? (·.1 == key) with
    | some (_, e) => some e
    | none => if d.entries.any fun (k, _) => key.isPrefixOf k then some .directory else none

/-- The greatest length of a component and of a path, in bytes. -/
def maxComponent : Nat := 255

/-- The length from which on a path is too long. -/
def maxPath : Nat := 4096

/-- Follows components from a directory above this one. Of what is there, only the way up is known.
-/
def resolveAbove : List String → Except ReadFault Entry
  | [] => .ok .directory
  | c :: cs =>
    if maxComponent < c.utf8ByteSize then .error .nameTooLong
    else if c == "." || c == "" || c == ".." then resolveAbove cs
    else .error .notFound

/-- Follows components from the directory under a key. -/
def resolve (d : Directory) : List String → List String → Except ReadFault Entry
  | key, [] => (d.entry? key).elim (.error .notFound) .ok
  | key, c :: cs =>
    match d.entry? key with
    | none => .error .notFound
    | some (.file _) => .error .notDirectory
    | some .directory =>
      if maxComponent < c.utf8ByteSize then .error .nameTooLong
      else if c == "." || c == "" then d.resolve key cs
      else if c == ".." then
        if key.isEmpty then resolveAbove cs else d.resolve key.dropLast cs
      else d.resolve (key ++ [c]) cs

/-- What stands at a path. Of the absolute paths only the root is known. -/
def find (d : Directory) (path : String) : Except ReadFault Entry :=
  if path.isEmpty then .error .notFound
  else if path.toList.contains '\x00' then
    .error (.other "file name contained an unexpected NUL byte")
  else if maxPath ≤ path.utf8ByteSize then .error .nameTooLong
  else if path.startsWith "/" then
    if (componentsOf path).isEmpty then .ok .directory else .error .notFound
  else d.resolve [] (path.splitOn "/")

/-- Reads files as texts. -/
def reader (d : Directory) : Reader := fun path =>
  match d.find path with
  | .error e => .error e
  | .ok .directory => .error .isDirectory
  | .ok (.file bytes) =>
    match String.fromUTF8? ⟨bytes.toArray⟩ with
    | some s => .ok s
    | none => .error .invalidText

end Directory

end MapBallot.Files
