import ShaderComposition.Interface
import ShaderComposition.Glsl.Target
import ShaderComposition.Text.Line

/-!
# Declarations of a program

How the text of a stage declares the parameters of the interface: the words in front of each one
depend on the dialect, and values handed from stage to stage may be given locations.
-/

namespace ShaderComposition

/-- The text `keyword type name[length]; /* source */`, without the parts that are empty. -/
def Parameter.declarationLine (p : Parameter) (keyword : String) (lengths : ArrayLengths) : String :=
  (if keyword = "" then "" else keyword ++ " ") ++ p.declaration lengths ++ ";" ++
    if p.source = "" then "" else " /* " ++ p.source ++ " */"

/-- The locations that one element takes: a matrix takes one for each column. -/
def GlslType.columns : GlslType → Nat
  | .data type => type.columns
  | .sampler _ => 1

def GlslType.isInteger : GlslType → Bool
  | .data type => type.isInteger
  | .sampler _ => false

/-- The locations that a value takes when it is handed from stage to stage. -/
def Shape.slots (s : Shape) (lengths : ArrayLengths) : Nat :=
  s.elementCount lengths * s.type.columns

theorem Shape.slots_pos (s : Shape) (lengths : ArrayLengths) : 0 < s.slots lengths := by
  refine Nat.mul_pos (s.elementCount_pos lengths) ?_
  cases s.type <;> simp [GlslType.columns, DataType.columns_pos]

namespace Declaration

/-- The words `layout(location = n)`; locations are counted in words of 32 bits. -/
def layout (location : Nat) : String :=
  "layout(location = " ++ toString (location % 4294967296) ++ ")"

/-- The words in front of an attribute. -/
def attributeKeyword (dialect : Dialect) (a : AttributeBinding) : String :=
  if dialect.usesExplicitLocations then layout a.channel.location ++ " in"
  else if dialect.usesInOut then "in"
  else "attribute"

/-- Values leave the vertex stage and enter the fragment stage. -/
def direction : Stage → String
  | .vertex => "out"
  | .fragment => "in"

/-- The words in front of a varying; integers are not interpolated. -/
def varyingKeyword (dialect : Dialect) (stage : Stage) (location : Nat) (p : Parameter) : String :=
  if dialect.usesInOut then
    (if dialect.usesVaryingLocations then layout location ++ " " else "") ++
      (if p.shape.type.isInteger then "flat " else "") ++ direction stage
  else "varying"

def attributeLines (dialect : Dialect) (lengths : ArrayLengths)
    (attributes : List AttributeBinding) : List String :=
  attributes.map fun a => a.parameter.declarationLine (attributeKeyword dialect a) lengths

def uniformLines (lengths : ArrayLengths) (uniforms : List Parameter) : List String :=
  uniforms.map fun p => p.declarationLine "uniform" lengths

/-- The lines of varyings from a location on: each starts where the one before it ends. -/
def varyingLines (dialect : Dialect) (stage : Stage) (lengths : ArrayLengths) (location : Nat) :
    List Parameter → List String
  | [] => []
  | p :: rest =>
    p.declarationLine (varyingKeyword dialect stage location p) lengths ::
      varyingLines dialect stage lengths (location + p.shape.slots lengths) rest

end Declaration

end ShaderComposition
