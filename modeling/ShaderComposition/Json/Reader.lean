import ShaderComposition.BuildError
import ShaderComposition.Json.Parser
import ShaderComposition.Number.Shortest
import ShaderComposition.Text.Quoted

/-!
# Reading values from JSON

A reader of a kind of value looks at a tree from left to right and stops at the first thing that is
wrong, be it in the text or in the values. A record is read from an object, whose keys may come in any
order and among unknown ones, or from an array of its fields.
-/

namespace ShaderComposition

/-- Why a value is not read from a text. -/
inductive ReadError
  /-- The text is not JSON. -/
  | text (fault : JsonFault)
  | invalidType (found expected : String)
  | invalidInteger (value : Int) (expected : String)
  | duplicateField (name : String)
  | missingField (name : String)
  /-- An array is too short for a record: the first field without a default is missing. -/
  | invalidLength (length : Nat) (record : String) (fields : Nat)
  /-- A text spells no symbol of a catalog. -/
  | unknownSymbol (error : BuildError)
  /-- None of the forms that a value may have fits. -/
  | noVariant (name : String)
deriving DecidableEq

namespace ReadError

/-- What is wrong with the values of a text that is JSON. -/
def message? : ReadError → Option String
  | text _ => none
  | invalidType found expected => some ("invalid type: " ++ found ++ ", expected " ++ expected)
  | invalidInteger value expected =>
    some ("invalid value: integer \x60" ++ toString value ++ "\x60, expected " ++ expected)
  | duplicateField name => some ("duplicate field \x60" ++ name ++ "\x60")
  | missingField name => some ("missing field \x60" ++ name ++ "\x60")
  | invalidLength length record fields =>
    some ("invalid length " ++ toString length ++ ", expected " ++ record ++ " with " ++
      toString fields ++ " elements")
  | unknownSymbol error => some error.message
  | noVariant name => some ("data did not match any variant of untagged enum " ++ name)

end ReadError

namespace Json

/-- Goes on only where a part of the text has no fault. -/
def expectSound (fault : Option JsonFault) : Except ReadError Unit :=
  match fault with
  | none => .ok ()
  | some fault => .error (.text fault)

/-- A value of another kind than the expected one. -/
def mismatch {α : Type} (expected : String) : Json → Except ReadError α
  | .null => .error (.invalidType "null" expected)
  | .bool value =>
    .error (.invalidType ("boolean \x60" ++ (if value then "true" else "false") ++ "\x60") expected)
  | .number (.integer value) =>
    .error (.invalidType ("integer \x60" ++ toString value ++ "\x60") expected)
  | .number (.double value) =>
    .error (.invalidType ("floating point \x60" ++ Shortest.ofDouble value ++ "\x60") expected)
  | .string value => .error (.invalidType ("string " ++ Text.quoted value) expected)
  | .array _ _ => .error (.invalidType "sequence" expected)
  | .object _ _ => .error (.invalidType "map" expected)
  | .unreadable => .error (.text .malformed)
  | .broken defect => .error (.text defect.whenRead)

def readBool : Json → Except ReadError Bool
  | .bool value => .ok value
  | other => other.mismatch "a boolean"

def readString : Json → Except ReadError String
  | .string value => .ok value
  | other => other.mismatch "a string"

/-- A text that may be given as `null`. -/
def readOptionalString : Json → Except ReadError (Option String)
  | .null => .ok none
  | other => some <$> other.readString

def readUInt16 : Json → Except ReadError UInt16
  | .number (.integer value) =>
    if 0 ≤ value ∧ value ≤ 65535 then .ok (.ofNat value.toNat)
    else .error (.invalidInteger value "u16")
  | other => other.mismatch "u16"

/-- The single-precision value nearest to an integer of at most 64 bits. -/
def singleOfInt (value : Int) : Float32 :=
  if value < 0 then -(UInt64.ofNat value.natAbs).toFloat32
  else (UInt64.ofNat value.natAbs).toFloat32

def readSingle : Json → Except ReadError Float32
  | .number (.integer value) => .ok (singleOfInt value)
  | .number (.double value) => .ok value.toFloat32
  | other => other.mismatch "f32"

/-- The end of an array or an object, where there may be a defect. -/
def readEnd (defect : Option JsonDefect) : Except ReadError Unit :=
  expectSound (defect.map (·.whenRead))

/-- A list of values of one kind. -/
def readList {α : Type} (read : Json → Except ReadError α) : Json → Except ReadError (List α)
  | .array items defect => do
    let values ← items.mapM read
    readEnd defect
    return values
  | other => other.mismatch "a sequence"

/-- A value of any kind, as a whole; arrays and objects may be nested up to a depth below `room`. -/
def readWhole (room : Nat) (value : Json) : Except ReadError Unit :=
  expectSound (value.scan room)

end Json

/-- One field of a record: how its value is read into a record. -/
structure JsonField (α : Type) where
  name : String
  required : Bool := false
  read : Json → α → Except ReadError α

/-- How records of a type are written: the name that reports use, and the fields in order. -/
structure JsonRecord (α : Type) where
  name : String
  fields : List (JsonField α)
  /-- The record whose fields are replaced by those that are given. -/
  default : α

namespace JsonRecord

variable {α : Type}

/-- Reads members of an object into a record; `seen` are the names of the fields before them. -/
def readMembers (r : JsonRecord α) (seen : List String) (record : α) :
    List (Option String × Json) → Except ReadError (List String × α)
  | [] => .ok (seen, record)
  | (none, _) :: _ => .error (.text .malformed)
  | (some key, value) :: rest =>
    match r.fields.find? (·.name == key) with
    | some field =>
      if seen.contains key then .error (.duplicateField key)
      else do r.readMembers (key :: seen) (← field.read value record) rest
    | none => do
      Json.expectSound value.skip
      r.readMembers seen record rest

/-- Reads an array of fields into a record; `index` is the place of the next one. -/
def readItems (r : JsonRecord α) (defect : Option JsonDefect) (index : Nat) (record : α) :
    List (JsonField α) → List Json → Except ReadError α
  | [], [] => do
    Json.readEnd defect
    return record
  | [], _ :: _ => .error (.text .malformed)
  | field :: fields, [] => do
    Json.readEnd defect
    match (field :: fields).findIdx? (·.required) with
    | some place => .error (.invalidLength (index + place) r.name r.fields.length)
    | none => return record
  | field :: fields, value :: values => do
    r.readItems defect (index + 1) (← field.read value record) fields values

/-- Reads a record. -/
def read (r : JsonRecord α) : Json → Except ReadError α
  | .object members defect => do
    let (seen, record) ← r.readMembers [] r.default members
    Json.readEnd defect
    match r.fields.find? fun field => field.required && !seen.contains field.name with
    | some field => .error (.missingField field.name)
    | none => return record
  | .array items defect => r.readItems defect 0 r.default r.fields items
  | other => other.mismatch r.name

end JsonRecord

namespace Json

/-- Reads the text of one value. -/
def readText {α : Type} (read : Json → Except ReadError α) (text : String) :
    Except ReadError α := do
  let document := parse text
  let value ← read document.value
  if document.trailing then .error (.text .malformed) else return value

end Json

end ShaderComposition
