import ShaderComposition.Catalog.Input
import ShaderComposition.Json.Printer

/-!
# Values of uniforms

A value has the components of its type, in the order in which the type's columns hold them, or is the
texture unit of a sampler.
-/

namespace ShaderComposition

/-- The kinds of component that data types are made of. -/
inductive Scalar
  | bool | int | uint | float
deriving DecidableEq

namespace Scalar

/-- The values of one component. -/
abbrev Carrier : Scalar → Type
  | bool => Bool
  | int => Int32
  | uint => UInt32
  | float => Float32

instance : (s : Scalar) → DecidableEq s.Carrier
  | bool => inferInstanceAs (DecidableEq Bool)
  | int => inferInstanceAs (DecidableEq Int32)
  | uint => inferInstanceAs (DecidableEq UInt32)
  | float => inferInstanceAs (DecidableEq Float32)

/-- One component as JSON has it; what is not finite is written `null`. -/
def text : (s : Scalar) → s.Carrier → String
  | bool, value => if value then "true" else "false"
  | int, value => toString value.toInt
  | uint, value => toString value.toNat
  | float, value => Shortest.ofSingle value

end Scalar

namespace DataType

def scalar : DataType → Scalar
  | .bool | .bvec2 | .bvec3 | .bvec4 => .bool
  | .int | .ivec2 | .ivec3 | .ivec4 => .int
  | .uint | .uvec2 | .uvec3 | .uvec4 => .uint
  | _ => .float

/-- How many components a value of the type has. -/
def components (t : DataType) : Nat :=
  t.columns * t.rows

end DataType

/-- A value that a uniform can be set to. -/
inductive Value
  | data (type : DataType) (components : Vector type.scalar.Carrier type.components)
  | sampler (kind : SamplerKind) (unit : Int32)
deriving DecidableEq

namespace Value

/-- The value of a type with the given components, if they are as many as the type has. -/
def ofList? (type : DataType) (components : List type.scalar.Carrier) : Option Value :=
  if h : components.length = type.components then
    some (.data type ⟨components.toArray, by simpa using h⟩)
  else none

def type : Value → GlslType
  | data type _ => .data type
  | sampler kind _ => .sampler kind

/-- The components as JSON has them: one by itself, several as an array. -/
def componentsText (type : DataType) (components : List type.scalar.Carrier) : String :=
  match components.map type.scalar.text with
  | [single] => single
  | several => "[" ++ ",".intercalate several ++ "]"

/-- The name of a value's type and its payload, as JSON. -/
def tagged (type payload : String) : String :=
  "\x7b\"type\":" ++ Json.quote type ++ ",\"value\":" ++ payload ++ "\x7d"

/-- A value as a JSON text that names its type. -/
def text : Value → String
  | data type components =>
    tagged (Vocabulary.spelling type) (componentsText type components.toList)
  | sampler kind unit =>
    tagged "sampler" ("\x7b\"kind\":" ++ Json.quote (Vocabulary.spelling kind) ++ ",\"unit\":" ++
      toString unit.toInt ++ "\x7d")

end Value

/-- What a sampler uniform of this name and type is set to; a uniform of plain data is left alone. -/
def TextureSlot.defaultValue (slot : TextureSlot) : GlslType → Option Value
  | .sampler kind => some (.sampler kind (.ofNat slot.unit))
  | .data _ => none

end ShaderComposition
