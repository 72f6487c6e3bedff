import MapBallot.Weighting.Parameters

/-!
# `MapBallot.Weighting.Builtin` — the weighting used when no document is configured
-/

namespace MapBallot.Weighting

variable {α : Type}

/-- Maps are in three groups, from those that are offered most to those that are offered least, and
environments in three more. -/
def builtinDocument (decay : Nat → Nat → α) : Document α where
  groups := [
    ("Top", ⟨100, decay 8 10, ["carentan", "omahabeach", "stmariedumont", "stmereeglise",
      "utahbeach"]⟩),
    ("Mid", ⟨80, decay 5 10, ["elsenbornridge", "foy", "hill400", "hurtgenforest",
      "purpleheartlane", "kursk", "stalingrad"]⟩),
    ("Low", ⟨40, decay 3 10, ["driel", "elalamein", "kharkov", "mortain", "remagen", "tobruk"]⟩)]
  environments := [
    ("Day", ⟨100, decay 8 10, [.day, .dawn, .overcast]⟩),
    ("Evening", ⟨70, decay 5 10, [.dusk, .rain]⟩),
    ("Night", ⟨50, decay 1 10, [.night]⟩)]

/-- The builtin parameters. The document is valid; the empty parameters stand in only for a document
that is not. -/
def Parameters.builtin [Scalar α] : Parameters α :=
  match ofDocument (builtinDocument fun n d => (Scalar.ofNat n / Scalar.ofNat d : α)) with
  | .ok p => p
  | .error _ => ⟨[], []⟩

end MapBallot.Weighting
