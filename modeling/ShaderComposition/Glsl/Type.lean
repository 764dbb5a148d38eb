import ShaderComposition.Vocabulary

/-!
# Types of the shading language

The types that a parameter can have, how it is used, and what its array length counts.
-/

namespace ShaderComposition

/-- The opaque sampler types. -/
inductive SamplerKind
  | sampler1D | sampler2D | sampler3D | samplerCube | sampler1DShadow | sampler2DShadow
  | samplerCubeShadow | sampler2DRect | sampler2DRectShadow | sampler1DArray | sampler2DArray
  | sampler1DArrayShadow | sampler2DArrayShadow | samplerBuffer | isampler2D | isampler2DArray
  | usampler2D | usampler2DArray
deriving DecidableEq

instance : Vocabulary SamplerKind where
  catalog := "sampler type"
  symbols := [
    .sampler1D, .sampler2D, .sampler3D, .samplerCube, .sampler1DShadow, .sampler2DShadow,
    .samplerCubeShadow, .sampler2DRect, .sampler2DRectShadow, .sampler1DArray, .sampler2DArray,
    .sampler1DArrayShadow, .sampler2DArrayShadow, .samplerBuffer, .isampler2D, .isampler2DArray,
    .usampler2D, .usampler2DArray]
  spelling
    | .sampler1D => "sampler1D"
    | .sampler2D => "sampler2D"
    | .sampler3D => "sampler3D"
    | .samplerCube => "samplerCube"
    | .sampler1DShadow => "sampler1DShadow"
    | .sampler2DShadow => "sampler2DShadow"
    | .samplerCubeShadow => "samplerCubeShadow"
    | .sampler2DRect => "sampler2DRect"
    | .sampler2DRectShadow => "sampler2DRectShadow"
    | .sampler1DArray => "sampler1DArray"
    | .sampler2DArray => "sampler2DArray"
    | .sampler1DArrayShadow => "sampler1DArrayShadow"
    | .sampler2DArrayShadow => "sampler2DArrayShadow"
    | .samplerBuffer => "samplerBuffer"
    | .isampler2D => "isampler2D"
    | .isampler2DArray => "isampler2DArray"
    | .usampler2D => "usampler2D"
    | .usampler2DArray => "usampler2DArray"
  complete := by intro a; cases a <;> decide
  distinct := by decide

namespace SamplerKind

/-- Samplers over an array of textures. -/
def isArray : SamplerKind → Bool
  | .sampler1DArray | .sampler2DArray | .sampler1DArrayShadow | .sampler2DArrayShadow
  | .isampler2DArray | .usampler2DArray => true
  | _ => false

/-- Samplers over rectangle textures, which are addressed by texel. -/
def isRect : SamplerKind → Bool
  | .sampler2DRect | .sampler2DRectShadow => true
  | _ => false

end SamplerKind

/-- The types of plain data. -/
inductive DataType
  | bool | bvec2 | bvec3 | bvec4 | int | ivec2 | ivec3 | ivec4 | uint | uvec2 | uvec3 | uvec4
  | float | vec2 | vec3 | vec4 | mat2 | mat2x3 | mat2x4 | mat3x2 | mat3 | mat3x4 | mat4x2
  | mat4x3 | mat4
deriving DecidableEq

instance : Vocabulary DataType where
  catalog := "value type"
  symbols := [
    .bool, .bvec2, .bvec3, .bvec4, .int, .ivec2, .ivec3, .ivec4, .uint, .uvec2, .uvec3, .uvec4,
    .float, .vec2, .vec3, .vec4, .mat2, .mat2x3, .mat2x4, .mat3x2, .mat3, .mat3x4, .mat4x2,
    .mat4x3, .mat4]
  spelling
    | .bool => "bool"
    | .bvec2 => "bvec2"
    | .bvec3 => "bvec3"
    | .bvec4 => "bvec4"
    | .int => "int"
    | .ivec2 => "ivec2"
    | .ivec3 => "ivec3"
    | .ivec4 => "ivec4"
    | .uint => "uint"
    | .uvec2 => "uvec2"
    | .uvec3 => "uvec3"
    | .uvec4 => "uvec4"
    | .float => "float"
    | .vec2 => "vec2"
    | .vec3 => "vec3"
    | .vec4 => "vec4"
    | .mat2 => "mat2"
    | .mat2x3 => "mat2x3"
    | .mat2x4 => "mat2x4"
    | .mat3x2 => "mat3x2"
    | .mat3 => "mat3"
    | .mat3x4 => "mat3x4"
    | .mat4x2 => "mat4x2"
    | .mat4x3 => "mat4x3"
    | .mat4 => "mat4"
  complete := by intro a; cases a <;> decide
  distinct := by decide

namespace DataType

/-- The columns of a matrix type; a scalar or a vector is one column. -/
def columns : DataType → Nat
  | .mat2 | .mat2x3 | .mat2x4 => 2
  | .mat3x2 | .mat3 | .mat3x4 => 3
  | .mat4x2 | .mat4x3 | .mat4 => 4
  | _ => 1

/-- The components of one column. -/
def rows : DataType → Nat
  | .bool | .int | .uint | .float => 1
  | .bvec2 | .ivec2 | .uvec2 | .vec2 | .mat2 | .mat3x2 | .mat4x2 => 2
  | .bvec3 | .ivec3 | .uvec3 | .vec3 | .mat2x3 | .mat3 | .mat4x3 => 3
  | .bvec4 | .ivec4 | .uvec4 | .vec4 | .mat2x4 | .mat3x4 | .mat4 => 4

/-- Integer types, which cannot be interpolated between vertices. -/
def isInteger : DataType → Bool
  | .int | .ivec2 | .ivec3 | .ivec4 | .uint | .uvec2 | .uvec3 | .uvec4 => true
  | _ => false

theorem columns_pos (t : DataType) : 0 < t.columns := by
  cases t <;> decide

end DataType

/-- The type of a parameter: plain data or a sampler. -/
inductive GlslType
  | data (type : DataType)
  | sampler (kind : SamplerKind)
deriving DecidableEq

namespace GlslType

open Vocabulary

/-- Every type, plain data first. -/
def all : List GlslType :=
  (Vocabulary.all DataType).map data ++ (Vocabulary.all SamplerKind).map sampler

def spelling : GlslType → String
  | data type => Vocabulary.spelling type
  | sampler kind => Vocabulary.spelling kind

def isSampler : GlslType → Bool
  | data _ => false
  | sampler _ => true

/-- The spelling that stands for a text: `unsigned int` is another way to write `uint`. -/
def normalize (text : String) : String :=
  if text = "unsigned int" then "uint" else text

/-- The type that a text spells. -/
def ofSpelling? (text : String) : Option GlslType :=
  ((symbol? (normalize text)).map data).or ((symbol? (normalize text)).map sampler)

end GlslType

/--
How a body uses a parameter: it reads the value, produces it, or changes a value that is already
there.
-/
inductive Qualifier
  | input | output | inout
deriving DecidableEq

instance : Vocabulary Qualifier where
  catalog := "qualifier"
  symbols := [.input, .output, .inout]
  spelling
    | .input => "in"
    | .output => "out"
    | .inout => "inout"
  complete := by intro a; cases a <;> decide
  distinct := by decide

/--
What the length of an array counts: nothing, for a single value, or something that the target
decides.
-/
inductive SizeClass
  | one | lights | bones | shadowMaps | layers | clipmapSlices
deriving DecidableEq

instance : Vocabulary SizeClass where
  catalog := "size class"
  symbols := [.one, .lights, .bones, .shadowMaps, .layers, .clipmapSlices]
  spelling
    | .one => "one"
    | .lights => "lights"
    | .bones => "bones"
    | .shadowMaps => "shadow_maps"
    | .layers => "layers"
    | .clipmapSlices => "clipmap_slices"
  complete := by intro a; cases a <;> decide
  distinct := by decide

namespace SizeClass

/-- The constant that holds the count in a program; a single value needs none. -/
def constantName : SizeClass → Option String
  | .one => none
  | .lights => some "lights_count"
  | .bones => some "bones_count"
  | .shadowMaps => some "shadow_maps_count"
  | .layers => some "layers_count"
  | .clipmapSlices => some "clipmap_slices_count"

/-- The largest count that a program is built for. -/
def maximum : SizeClass → Nat
  | .one => 1
  | .lights => 8
  | .bones => 80
  | .shadowMaps => 3
  | .layers => 4
  | .clipmapSlices => 8

theorem maximum_pos (c : SizeClass) : 0 < c.maximum := by
  cases c <;> decide

end SizeClass

end ShaderComposition
