/-!
# `MapBallot.Identifier` — names of groups, maps and layers

An identifier is a nonempty text of at most fifty ASCII letters, digits and underscores.
-/

namespace MapBallot

/-- The greatest length of an identifier, in bytes. -/
def identifierMaxLength : Nat := 50

/-- An ASCII letter, an ASCII digit or an underscore. -/
def isIdentifierChar (c : Char) : Bool := c.isAlphanum || c == '_'

/-- The texts that may name a group, a map or a layer. -/
def isIdentifier (s : String) : Bool :=
  !s.isEmpty && s.utf8ByteSize ≤ identifierMaxLength && s.toList.all isIdentifierChar

end MapBallot
