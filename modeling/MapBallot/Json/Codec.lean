import MapBallot.Json.Reader

/-!
# `MapBallot.Json.Codec` — reading and writing values as documents

A codec pairs a reader of drafts with a writer of documents. Readers walk a draft in the order of
its text and stop at the first problem. Records are given by a list of fields; the reader and the
writer of a record come from the same list, so a field cannot be added to one of them alone.

## Contents

* `Codec`, `Codec.Faithful` — what is written can be read back;
* `text`, `truth`, `word64`, `word32`, `signed64`, `real` — the leaves;
* `nullable`, `list`, `named`, `readDictionary` — the containers;
* `Field`, `Values`, `record` — records, as objects or as sequences of their fields;
* `firstOf` — values that have several forms;
* `Codec.ofText` — reading a whole text.
-/

namespace MapBallot.Json

/-- A reader of drafts and a writer of documents. -/
structure Codec (α : Type) where
  read : Draft → Except Fault α
  write : α → Json

namespace Codec

variable {α β : Type}

/-- Whatever is written is read back as it was. -/
def Faithful (c : Codec α) : Prop := ∀ a, c.read (.ofJson (c.write a)) = .ok a

/-! ## Leaves -/

/-- A text; `expected` names what it stands for in messages. -/
def textAs (expected : String) : Codec String where
  read
    | .string (some s) => .ok s
    | d => .error (d.fault expected)
  write := .string

/-- A text. -/
def text : Codec String := textAs "a string"

/-- A truth value. -/
def truth : Codec Bool where
  read
    | .bool b => .ok b
    | d => .error (d.fault "a boolean")
  write := .bool

/-- A whole number from `low` to `high`. -/
def integerIn (low high : Int) (expected : String) (d : Draft) : Except Fault Int :=
  match d with
  | .number (some (.integer z)) =>
    if low ≤ z && z ≤ high then .ok z else .error (.outOfRange z expected)
  | d => .error (d.fault expected)

/-- A natural number of 64 bits; `expected` names the field's size in messages. -/
def word64 (expected : String) : Codec UInt64 where
  read d := (integerIn 0 0xFFFFFFFFFFFFFFFF expected d).map fun z => z.toNat.toUInt64
  write n := .ofNat n.toNat

/-- A natural number of 32 bits. -/
def word32 : Codec UInt32 where
  read d := (integerIn 0 0xFFFFFFFF "u32" d).map fun z => z.toNat.toUInt32
  write n := .ofNat n.toNat

/-- A whole number of 64 bits with a sign. -/
def signed64 : Codec Int where
  read := integerIn (-0x8000000000000000) 0x7FFFFFFFFFFFFFFF "i64"
  write z := .number (.integer z)

/-- A double; whole numbers are rounded to it. -/
def real : Codec Float where
  read
    | .number (some (.integer z)) =>
      .ok (if z < 0 then -(-z).toNat.toUInt64.toFloat else z.toNat.toUInt64.toFloat)
    | .number (some (.real x)) => .ok x
    | d => .error (d.fault "f64")
  write := .ofFloat

/-! ## Containers -/

/-- A value that may be absent; null stands for none. -/
def nullable (c : Codec α) : Codec (Option α) where
  read
    | .null => .ok none
    | d => (c.read d).map some
  write := .ofOption c.write

/-- Reads the items of a sequence in order, until the first problem. -/
def readItems (c : Codec α) : List Draft → Except Fault (List α)
  | [] => .ok []
  | d :: ds => do
    let a ← c.read d
    let rest ← readItems c ds
    pure (a :: rest)

/-- A sequence of values. -/
def list (c : Codec α) : Codec (List α) where
  read
    | .array items closed => do
      let as ← c.readItems items
      if closed then pure as else throw .malformed
    | d => .error (d.fault "a sequence")
  write as := .array (as.map c.write)

/-- The member of a closed set with the given name. -/
def lookup (names : List String) (ofName? : String → Option α) (name : String) : Except Fault α :=
  match ofName? name with
  | some a => .ok a
  | none => .error (.unknownVariant name names)

/-- A member of a closed set: its name, or an object with that one name and the value null. -/
def named (names : List String) (ofName? : String → Option α) (name : α → String) : Codec α where
  read
    | .string (some s) => lookup names ofName? s
    | .object ((.string (some s), value) :: others) closed => do
      let a ← lookup names ofName? s
      match value with
      | .null => if others.isEmpty && closed then pure a else throw .malformed
      | value => throw (value.fault "unit")
    | _ => .error .malformed
  write a := .string (name a)

/-- Reads the members of an object in order, until the first problem. -/
def readMembers (key : String → Except Fault α) (value : Codec β) :
    List (Draft × Draft) → Except Fault (List (α × β))
  | [] => .ok []
  | (.string (some k), d) :: ms => do
    let k ← key k
    let v ← value.read d
    let rest ← readMembers key value ms
    pure ((k, v) :: rest)
  | _ :: _ => .error .malformed

/-- The members of an object whose names are read by `key`, in order and with repetitions. -/
def readDictionary (expected : String) (key : String → Except Fault α) (value : Codec β)
    (d : Draft) : Except Fault (List (α × β)) :=
  match d with
  | .object members closed => do
    let entries ← readMembers key value members
    if closed then pure entries else throw .malformed
  | d => .error (d.fault expected)

end Codec

/-! ## Records -/

/-- A field of a record. -/
structure Field where
  name : String
  Value : Type
  read : Draft → Except Fault Value
  /-- The value of the field in an object that leaves it out. -/
  absent : Option Value
  /-- The value of the field in a sequence that ends before it. -/
  dropped : Option Value
  /-- The written value, or `none` to leave the field out. -/
  write : Value → Option Json

namespace Field

variable {α : Type}

/-- A field that must be given. -/
def required (name : String) (c : Codec α) : Field where
  name := name
  Value := α
  read := c.read
  absent := none
  dropped := none
  write a := some (c.write a)

/-- A field with a default. -/
def withDefault (name : String) (c : Codec α) (default : α) : Field where
  name := name
  Value := α
  read := c.read
  absent := some default
  dropped := some default
  write a := some (c.write a)

/-- A field that may be absent, written as null then. -/
def optional (name : String) (c : Codec α) : Field :=
  withDefault name c.nullable none

/-- A field that may be absent from an object, written as null then, but not from a sequence. -/
def optionalInObject (name : String) (c : Codec α) : Field where
  name := name
  Value := Option α
  read := c.nullable.read
  absent := some none
  dropped := none
  write a := some (c.nullable.write a)

/-- A field that may be absent, left out then. -/
def omitted (name : String) (c : Codec α) : Field where
  name := name
  Value := Option α
  read := c.nullable.read
  absent := some none
  dropped := some none
  write a := a.map c.write

end Field

/-- One value for each field. -/
def Values : List Field → Type
  | [] => Unit
  | f :: fs => f.Value × Values fs

/-- The values read so far. -/
def Slots : List Field → Type
  | [] => Unit
  | f :: fs => Option f.Value × Slots fs

/-- No value read yet. -/
def Slots.empty : (fs : List Field) → Slots fs
  | [] => ()
  | _ :: fs => (none, empty fs)

/-- Reads the value of the named field, which must not have one yet; `none` if there is no such
field. -/
def Slots.put : (fs : List Field) → Slots fs → String → Draft → Option (Except Fault (Slots fs))
  | [], _, _, _ => none
  | f :: fs, (slot, slots), name, d =>
    if f.name == name then
      some <| match slot with
        | some _ => .error (.duplicateField name)
        | none => (f.read d).map fun v => (some v, slots)
    else (put fs slots name d).map fun r => r.map fun slots => (slot, slots)

/-- Reads the members of an object in order, until the first problem. -/
def Slots.fill (fs : List Field) (strict : Bool) :
    Slots fs → List (Draft × Draft) → Except Fault (Slots fs)
  | slots, [] => .ok slots
  | slots, (.string (some name), d) :: ms =>
    match slots.put fs name d with
    | some (.ok slots) => fill fs strict slots ms
    | some (.error e) => .error e
    | none =>
      if strict then .error (.unknownField name (fs.map Field.name))
      else if d.isWhole then fill fs strict slots ms
      else .error .malformed
  | _, _ :: _ => .error .malformed

/-- The values of all fields, with defaults for those that an object left out. -/
def Slots.finish : (fs : List Field) → Slots fs → Except Fault (Values fs)
  | [], _ => .ok ()
  | f :: fs, (slot, slots) =>
    match slot <|> f.absent with
    | none => .error (.missingField f.name)
    | some v => (finish fs slots).map fun vs => (v, vs)

/-- The values of all fields from the items of a sequence, with defaults for those that the sequence
does not reach. -/
def Values.ofItems (expected : String) (closed : Bool) :
    (fs : List Field) → Nat → List Draft → Except Fault (Values fs)
  | [], _, [] => if closed then .ok () else .error .malformed
  | [], _, _ :: _ => .error .malformed
  | f :: fs, taken, d :: ds => do
    let v ← f.read d
    let vs ← ofItems expected closed fs (taken + 1) ds
    pure (v, vs)
  | f :: fs, taken, [] =>
    if closed then
      match f.dropped with
      | none => .error (.tooShort taken expected)
      | some v => (ofItems expected closed fs taken []).map fun vs => (v, vs)
    else .error .malformed

/-- The written fields, without those that are left out. -/
def Values.toMembers : (fs : List Field) → Values fs → List (String × Json)
  | [], _ => []
  | f :: fs, (v, vs) =>
    match f.write v with
    | none => toMembers fs vs
    | some j => (f.name, j) :: toMembers fs vs

/-- What a record is called in messages, and whether it refuses unknown fields. -/
structure Heading where
  name : String
  strict : Bool := false
  /-- Messages about sequences say how many fields there are. -/
  counted : Bool := true

/-- What is expected where a record should stand. -/
def Heading.expected (h : Heading) : String := "struct " ++ h.name

/-- What is expected of a sequence that should hold a record of `n` fields. -/
def Heading.expectedItems (h : Heading) (n : Nat) : String :=
  if h.counted then
    h.expected ++ " with " ++ toString n ++ (if n == 1 then " element" else " elements")
  else h.expected

/-- The values of a record's fields, from an object or from a sequence. -/
def Values.read (h : Heading) (fs : List Field) : Draft → Except Fault (Values fs)
  | .object members closed => do
    let slots ← (Slots.empty fs).fill fs h.strict members
    if closed then slots.finish fs else throw .malformed
  | .array items closed => Values.ofItems (h.expectedItems fs.length) closed fs 0 items
  | d => .error (d.fault h.expected)

namespace Codec

variable {α : Type}

/-- A record: `make` builds a value from its fields and `parts` takes it apart. -/
def record (h : Heading) (fs : List Field) (make : Values fs → α) (parts : α → Values fs) :
    Codec α where
  read d := (Values.read h fs d).map make
  write a := .object ((parts a).toMembers fs)

/-! ## Values with several forms, and whole texts -/

/-- The greatest depth of a value that has several forms. -/
def maxFormDepth : Nat := 127

/-- The first of several forms that fits. The whole value is read before any form is tried. -/
def firstOf (name : String) (forms : List (Draft → Except Fault α)) (d : Draft) : Except Fault α :=
  if d.isSound && d.depth ≤ maxFormDepth then
    match forms.findSome? fun form => (form d).toOption with
    | some a => .ok a
    | none => .error (.noAlternative name)
  else .error .malformed

/-- Reads a whole text. Problems of the value come before what follows it. -/
def readText (read : Draft → Except Fault α) (text : String) : Except Fault α :=
  let (d, ended) := Draft.ofText text
  match read d with
  | .ok a => if ended then .ok a else .error .malformed
  | .error e => .error e

/-- The value that a text describes. -/
def ofText (c : Codec α) (text : String) : Except Fault α := readText c.read text

end Codec

end MapBallot.Json
