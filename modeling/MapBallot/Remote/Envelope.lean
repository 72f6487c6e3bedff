import MapBallot.Remote.Settings

/-!
# `MapBallot.Remote.Envelope` — what the remote tool wraps its answers in, and catalogs

Every answer of the remote tool comes in an envelope that names the command and says whether it
failed; the payload, if any, is its result. A catalog dump is either such an envelope around a list
of layer descriptions or that list alone.

## Contents

* `Envelope`, `Envelope.codec`;
* `Catalog.read`, `Catalog.ofText` — the layers of a catalog dump.
-/

namespace MapBallot.Remote

open Json (Codec Field Draft Fault)

variable {α : Type}

/-- An answer of the remote tool. -/
structure Envelope (α : Type) where
  command : String
  failed : Bool
  error : Option String := none
  version : Option String := none
  result : Option α := none
  deriving DecidableEq, Repr

namespace Envelope

/-- The fields of a written envelope. -/
def fields (payload : Codec α) : List Field := [
  .required "command" .text,
  .required "failed" .truth,
  .optional "error" .text,
  .optional "version" .text,
  .optionalInObject "result" payload]

/-- Envelopes are records; as a sequence of fields an envelope must reach the result. -/
def codec (payload : Codec α) : Codec (Envelope α) :=
  .record ⟨"ApiResult", false, true⟩ (fields payload)
    (fun (command, failed, error, version, result, ()) => ⟨command, failed, error, version, result⟩)
    (fun e => (e.command, e.failed, e.error, e.version, e.result, ()))

end Envelope

namespace Catalog

/-- Layer descriptions in an envelope; none if it has no result. -/
def readEnvelope (d : Draft) : Except Fault (List LayerRecord) :=
  ((Envelope.codec (.list LayerRecord.codec)).read d).map fun e => e.result.getD []

/-- A list of layer descriptions. -/
def readBare (d : Draft) : Except Fault (List LayerRecord) := (Codec.list LayerRecord.codec).read d

/-- The layers of a catalog dump in either form. -/
def read (d : Draft) : Except Fault (List Layer) :=
  (Codec.firstOf "CatalogDump" [readEnvelope, readBare] d).map fun rs => rs.map LayerRecord.layer

/-- The layers of the catalog dump that a text describes. -/
def ofText (text : String) : Except Fault (List Layer) := Codec.readText read text

end Catalog

end MapBallot.Remote
