import MapBallot.GameMode
import MapBallot.Json.Codec

/-!
# `MapBallot.Layer` — layers and the remote tool's records of them

A *layer* is one entry of the vote: a map in one environment and one game mode. The remote tool
describes layers at greater length; a `LayerRecord` is that description, and `LayerRecord.layer` is
the layer it describes.

## Contents

* the codecs of `Environment`, `GameMode` and `Team`;
* `Layer`, `Layer.codec`;
* `MapRecord`, `LayerRecord`, `LayerRecord.codec`, `LayerRecord.layer`.
-/

namespace MapBallot

open Json (Codec Field Values Draft Fault)

/-- Environments are written by name. -/
def Environment.codec : Codec Environment :=
  .named (all.map name) ofName? name

/-- Game modes are written by name. -/
def GameMode.codec : Codec GameMode :=
  .named (all.map name) ofName? name

/-- Sides are written by name. -/
def Team.codec : Codec Team :=
  .named (all.map name) ofName? name

/-- A map in one environment and one game mode, as it is offered in a vote. -/
structure Layer where
  id : String
  map : String
  environment : Environment
  gameMode : GameMode
  /-- The attacking side; only offensive layers have one. -/
  attackers : Option Team := none
  deriving DecidableEq, Repr, Inhabited

namespace Layer

/-- The fields of a written layer. -/
def fields : List Field := [
  .required "id" .text,
  .required "map" .text,
  .required "environment" Environment.codec,
  .required "game_mode" GameMode.codec,
  .omitted "attackers" Team.codec]

/-- Layers are records; the attacking side is left out when there is none. -/
def codec : Codec Layer :=
  .record ⟨"MapLayer", false, true⟩ fields
    (fun (id, map, environment, gameMode, attackers, ()) =>
      ⟨id, map, environment, gameMode, attackers⟩)
    (fun l => (l.id, l.map, l.environment, l.gameMode, l.attackers, ()))

end Layer

/-- The remote tool's description of a map. -/
structure MapRecord where
  id : String
  name : Option String := none
  prettyName : Option String := none
  deriving DecidableEq, Repr

namespace MapRecord

/-- The fields of a written map description. -/
def fields : List Field := [
  .required "id" .text,
  .optional "name" .text,
  .optional "pretty_name" .text]

/-- Map descriptions are records. -/
def codec : Codec MapRecord :=
  .record ⟨"MapRecord", false, true⟩ fields
    (fun (id, name, prettyName, ()) => ⟨id, name, prettyName⟩)
    (fun m => (m.id, m.name, m.prettyName, ()))

end MapRecord

/-- The remote tool's description of a layer. -/
structure LayerRecord where
  id : String
  map : MapRecord
  gameMode : GameMode
  attackers : Option Team := none
  environment : Environment := .day
  prettyName : Option String := none
  deriving DecidableEq, Repr

namespace LayerRecord

/-- The fields of a written layer description. -/
def fields : List Field := [
  .required "id" .text,
  .required "map" MapRecord.codec,
  .required "game_mode" GameMode.codec,
  .optional "attackers" Team.codec,
  .withDefault "environment" Environment.codec .day,
  .optional "pretty_name" .text]

/-- Layer descriptions are records. -/
def codec : Codec LayerRecord :=
  .record ⟨"LayerRecord", false, true⟩ fields
    (fun (id, map, gameMode, attackers, environment, prettyName, ()) =>
      ⟨id, map, gameMode, attackers, environment, prettyName⟩)
    (fun r => (r.id, r.map, r.gameMode, r.attackers, r.environment, r.prettyName, ()))

/-- The layer that a description is of. -/
def layer (r : LayerRecord) : Layer :=
  ⟨r.id, r.map.id, r.environment, r.gameMode, r.attackers⟩

end LayerRecord

end MapBallot
