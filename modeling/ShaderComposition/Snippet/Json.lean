import ShaderComposition.Json.Reader
import ShaderComposition.Snippet.Definition

/-!
# Reading definitions of snippets

Definitions come as an array of records. A body and a parameter may be written in several forms, which
are tried in order: they are first read as a whole, and the first form that fits is taken.
-/

namespace ShaderComposition

namespace ParameterReference

/-- The values of a key; a form fits only where each of its keys is given once at most. -/
def valuesOf (members : List (Option String × Json)) (key : String) : List Json :=
  members.filterMap fun (k, value) => if k = some key then some value else none

/-- The text of a key that must be given. -/
def textOf? (members : List (Option String × Json)) (key : String) : Option String :=
  match valuesOf members key with
  | [.string value] => some value
  | _ => none

/-- The text of a key that may be left out or `null`. -/
def optionalTextOf? (members : List (Option String × Json)) (key : String) :
    Option (Option String) :=
  match valuesOf members key with
  | [] | [.null] => some none
  | [.string value] => some (some value)
  | _ => none

/-- The count of a key that may be left out or `null`. -/
def optionalCountOf? (members : List (Option String × Json)) (key : String) :
    Option (Option UInt16) :=
  match valuesOf members key with
  | [] | [.null] => some none
  | [.number (.integer value)] =>
    if 0 ≤ value ∧ value ≤ 65535 then some (some (.ofNat value.toNat)) else none
  | _ => none

/-- The forms of a parameter, by the members that each of them takes. -/
def forms : List (List (Option String × Json) → Option ParameterReference) := [
  fun members => do
    return engineUniform (← textOf? members "auto"),
  fun members => do
    return sharedValue (← textOf? members "common") (← optionalTextOf? members "qualifier"),
  fun members => do
    return vertexAttribute (← textOf? members "attribute"),
  fun members => do
    return textureSlot (← textOf? members "sampler") (← optionalTextOf? members "type"),
  fun members => do
    return custom (← textOf? members "name") (← textOf? members "type")
      (← optionalTextOf? members "qualifier") (← optionalTextOf? members "size")
      (← optionalCountOf? members "scale")]

/-- How deep a parameter may be nested, two arrays and an object around it being counted already. -/
def room : Nat := 125

def read (value : Json) : Except ReadError ParameterReference := do
  value.readWhole room
  let fitting := match value with
    | .object members _ => forms.findSome? fun form => form members
    | _ => none
  match fitting with
  | some reference => return reference
  | none => throw (ReadError.noVariant "ParameterDefinition")

end ParameterReference

namespace Snippet.Definition

/-- How deep a body may be nested, an array and an object around it being counted already. -/
def bodyRoom : Nat := 126

/-- Reads a body, which is a text or a list of lines. -/
def readBody (value : Json) : Except ReadError String := do
  value.readWhole bodyRoom
  match value with
  | .string text => return text
  | .array items _ =>
    let lines := items.mapM fun
      | .string line => some line
      | _ => none
    match lines with
    | some lines => return "\n".intercalate lines
    | none => throw (.noVariant "FragmentBody")
  | _ => throw (.noVariant "FragmentBody")

def fields : List (JsonField Definition) := [
  { name := "role", required := true
    read := fun value d => do return { d with role := ← value.readString } },
  { name := "name", required := true
    read := fun value d => do return { d with name := ← value.readString } },
  { name := "stages"
    read := fun value d => do return { d with stages := ← value.readList Json.readString } },
  { name := "dialects"
    read := fun value d => do return { d with dialects := ← value.readList Json.readString } },
  { name := "packing"
    read := fun value d => do return { d with packing := ← value.readOptionalString } },
  { name := "parameters"
    read := fun value d => do
      return { d with parameters := ← value.readList ParameterReference.read } },
  { name := "body", required := true
    read := fun value d => do return { d with body := ← readBody value } }]

def record : JsonRecord Definition :=
  { name := "struct FragmentDefinition", fields, default := { role := "", name := "", body := "" } }

/-- The definitions that a text describes. -/
def listOfText (text : String) : Except ReadError (List Definition) :=
  Json.readText (Json.readList record.read) text

end Snippet.Definition

end ShaderComposition
