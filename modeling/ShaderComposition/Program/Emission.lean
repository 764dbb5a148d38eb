import ShaderComposition.Glsl.Value
import ShaderComposition.Permutation
import ShaderComposition.Program.Declaration

/-!
# The text of a program

The text of a stage is a preamble of directives, the constants that array lengths are counted in, a
section for each kind of declaration, and the main function.
-/

namespace ShaderComposition

/-- A stage was refused by whatever was to improve its text; both texts show what was tried. -/
structure OptimizationFailure where
  stage : Stage
  log : String
  vertexSource : String := ""
  fragmentSource : String := ""
deriving DecidableEq

def OptimizationFailure.message (f : OptimizationFailure) : String :=
  Vocabulary.spelling f.stage ++ " shader optimization failed: " ++ f.log

/-- What became of the text after it was written. -/
inductive Optimization
  | skipped
  | applied
  | failed (failure : OptimizationFailure)
deriving DecidableEq

/-- The texts of a program, with what is needed to bind it. -/
structure Emission where
  vertexText : String
  fragmentText : String
  /-- The directives at the start of the vertex text. -/
  vertexPreamble : String
  /-- The directives at the start of the fragment text. -/
  fragmentPreamble : String
  /-- What the texture samplers among the uniforms are set to before anything is drawn. -/
  defaultValues : List (TextureSlot × Value) := []
  interface : Interface := {}
  optimization : Optimization := .skipped
deriving DecidableEq

namespace Emission

def text (e : Emission) : Stage → String
  | .vertex => e.vertexText
  | .fragment => e.fragmentText

def preamble (e : Emission) : Stage → String
  | .vertex => e.vertexPreamble
  | .fragment => e.fragmentPreamble

/-- The text after the preamble; all of it where it does not start with the preamble. -/
def body (e : Emission) (stage : Stage) : String :=
  let text := (e.text stage).toList
  let preamble := (e.preamble stage).toList
  if preamble.isPrefixOf text then String.ofList (text.drop preamble.length) else e.text stage

/-- The kinds of the samplers among parameters. -/
def samplers (declared : List Parameter) : List SamplerKind :=
  declared.filterMap fun p =>
    match p.shape.type with
    | .sampler kind => some kind
    | .data _ => none

/-- The version, and the extensions that the declared samplers need in old versions. -/
def directives (dialect : Dialect) (declared : List Parameter) : String :=
  let kinds := samplers declared
  "#version " ++ toString dialect.version ++ "\n" ++
    (if dialect.version < 130 && kinds.any (·.isArray) then
      "#extension GL_EXT_texture_array : enable\n" else "") ++
    if dialect.version < 140 && kinds.any (·.isRect) then
      "#extension GL_ARB_texture_rectangle : enable\n" else ""

/-- The size classes that the declared arrays are counted in, in vocabulary order. -/
def sizeClasses (declared : List Parameter) : List SizeClass :=
  (Vocabulary.all SizeClass).filter fun c =>
    c ≠ .one && declared.any fun p => p.shape.sizeClass = c

/-- The line that defines the count of a size class. -/
def constantLine (lengths : ArrayLengths) (c : SizeClass) : String :=
  match c.constantName with
  | some name => "const int " ++ name ++ " = " ++ toString (lengths.length c) ++ ";\n"
  | none => ""

/-- The counts of the declared arrays, followed by an empty line if there are any. -/
def constants (lengths : ArrayLengths) (declared : List Parameter) : String :=
  let classes := sizeClasses declared
  if classes.isEmpty then "" else String.join (classes.map (constantLine lengths)) ++ "\n"

/-- Lines under a title, followed by an empty line; nothing where there are no lines. -/
def titled (title : String) (lines : List String) : String :=
  if lines.isEmpty then ""
  else "/* " ++ title ++ " */\n" ++ String.join (lines.map (· ++ "\n")) ++ "\n"

/-- The main function: its temporaries, and what it does. -/
def mainFunction (lengths : ArrayLengths) (temporaries : List Parameter) (main : String) : String :=
  "void main()\n\x7b\n" ++
    String.join (temporaries.map fun p => Text.line 1 (p.declarationLine "" lengths)) ++
    (if temporaries.isEmpty then "" else "\n") ++ main ++ "\x7d\n"

/-- The comment at the head of each stage. -/
def header (p : Permutation) : String :=
  "/* " ++ p.name ++ " " ++ Vocabulary.spelling p.purpose ++ " */\n"

/-- The vertex text after its preamble. -/
def vertexBody (p : Permutation) (i : Interface) (main : String) : String :=
  let lengths := p.arrayLengths
  header p ++ "invariant gl_Position;\n\n" ++ constants lengths (i.declared .vertex) ++
    titled "vertex shader input" (Declaration.attributeLines p.dialect lengths i.attributes) ++
    titled "uniforms" (Declaration.uniformLines lengths i.vertexUniforms) ++
    titled "vertex shader output"
      (Declaration.varyingLines p.dialect .vertex lengths 0 i.varyings) ++
    mainFunction lengths i.vertexTemporaries main

/-- The lines that declare where the fragment stage writes to, where the dialect asks for them. -/
def outputLines (dialect : Dialect) : List String :=
  if dialect.usesExplicitLocations then
    [Declaration.layout 0 ++ " out vec4 " ++ dialect.fragmentOutput ++ ";"]
  else []

/-- The fragment text after its preamble. -/
def fragmentBody (p : Permutation) (i : Interface) (main : String) : String :=
  let lengths := p.arrayLengths
  header p ++ constants lengths (i.declared .fragment) ++
    titled "uniforms" (Declaration.uniformLines lengths i.fragmentUniforms) ++
    titled "fragment shader input"
      (Declaration.varyingLines p.dialect .fragment lengths 0 i.varyings) ++
    titled "fragment shader output" (outputLines p.dialect) ++
    mainFunction lengths i.fragmentTemporaries main

/-- What a uniform is set to if it has the name of the slot. -/
def valueFor (slot : TextureSlot) (p : Parameter) : Option Value :=
  if p.name = Vocabulary.spelling slot then slot.defaultValue p.shape.type else none

/-- What the texture slots among the uniforms are set to; of two for a slot the last one counts. -/
def valuesOf (i : Interface) : List (TextureSlot × Value) :=
  (Vocabulary.all TextureSlot).filterMap fun slot =>
    (i.uniforms.reverse.findSome? (valueFor slot)).map (slot, ·)

/-- The program of a permutation, by its interface and what its main functions do. -/
def ofInterface (p : Permutation) (i : Interface) (vertexMain fragmentMain : String) : Emission :=
  let vertexPreamble := directives p.dialect (i.declared .vertex)
  let fragmentPreamble := directives p.dialect (i.declared .fragment)
  { vertexText := vertexPreamble ++ vertexBody p i vertexMain
    fragmentText := fragmentPreamble ++ fragmentBody p i fragmentMain
    vertexPreamble
    fragmentPreamble
    defaultValues := valuesOf i
    interface := i }

end Emission

end ShaderComposition
