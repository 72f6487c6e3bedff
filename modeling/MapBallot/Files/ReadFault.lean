import MapBallot.Text.Quoted

/-!
# `MapBallot.Files.ReadFault` — why a file could not be read

## Contents

* `ReadFault`, `ReadFault.message` — the reasons, in the wording of the operating system;
* `Reader` — what reads files: a function from paths to texts.
-/

namespace MapBallot.Files

/-- Why a file could not be read as a text. -/
inductive ReadFault
  | notFound
  | isDirectory
  | notDirectory
  | nameTooLong
  /-- The bytes of the file are no text. -/
  | invalidText
  /-- Another reason, in the words of the operating system. -/
  | other (reason : String)
  deriving DecidableEq, Repr

/-- The wording of a reading fault. -/
def ReadFault.message : ReadFault → String
  | .notFound => "No such file or directory (os error 2)"
  | .isDirectory => "Is a directory (os error 21)"
  | .notDirectory => "Not a directory (os error 20)"
  | .nameTooLong => "File name too long (os error 36)"
  | .invalidText => "stream did not contain valid UTF-8"
  | .other reason => reason

/-- What reads the file at a path as a text. -/
abbrev Reader := String → Except ReadFault String

end MapBallot.Files
