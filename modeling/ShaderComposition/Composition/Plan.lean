import ShaderComposition.Composition.LightBlock
import ShaderComposition.Composition.Schedule

/-!
# What the stages of a program are made of

A stage is a list of parts: snippets, statements of the program's own, and at most one light block.
The list depends on the permutation and on which snippets there are for its roles, and on nothing
that the parts declare.
-/

namespace ShaderComposition

open Expression (var builtin literal component call pair binary negate group)

/-- One part of a stage. -/
inductive Part
  | snippet (s : Snippet)
  /-- Statements of the program's own, with the parameters that they use. -/
  | code (parameters : List Parameter) (statements : List Statement)
  | lights (block : LightBlock)

namespace Plan

/-- The snippet of a role, if there is one. -/
def job (select : Selection) (role : Role) (stage : Stage) : List Part :=
  ((select role stage).map Part.snippet).toList

/-- Parts that are needed only in some cases. -/
def when (needed : Bool) (parts : List Part) : List Part :=
  if needed then parts else []

/-- The vertex is projected. -/
def projection : Part :=
  let source := "projection"
  .code
    [Catalog.readBy EngineUniform.projectionViewMatrix source,
      Catalog.readBy SharedValue.worldPosition source]
    [.assign (builtin "gl_Position")
      (binary .times (Catalog.value EngineUniform.projectionViewMatrix)
        (call "vec4" (pair (Catalog.value SharedValue.worldPosition) (literal "1.0"))))]

/-- Lighting without a loop over lights. -/
def ambient (p : Permutation) (stage : Stage) : Part :=
  let term := ambientTerm p stage
  match stage with
  | .vertex =>
    .code (term.parameters ++ [Catalog.producedBy SharedValue.vertexColor lightingSource])
      [.assign (Catalog.value SharedValue.vertexColor) term.expression]
  | .fragment =>
    .code
      (term.parameters ++ [
        Catalog.readBy SharedValue.albedo lightingSource,
        Catalog.readBy SharedValue.emission lightingSource,
        Catalog.producedBy SharedValue.fragmentColor lightingSource])
      [.assign (Catalog.value SharedValue.fragmentColor)
        (binary .times (component (Catalog.value SharedValue.albedo) "rgb")
          (group (binary .plus term.expression (Catalog.value SharedValue.emission))))]

/-- The light block of a stage, or ambient light where there is no light snippet for the stage. -/
def lighting (p : Permutation) (shadowScale : Float32) (select : Selection) (stage : Stage)
    (shadowed : Bool) : List Part :=
  match select .light stage with
  | some light => [.lights (.forStage p shadowScale stage light shadowed)]
  | none => [ambient p stage]

/-- The color of a surface that no light falls on is its own. -/
def unlit : Part :=
  .code
    [Catalog.readBy SharedValue.albedo lightingSource,
      Catalog.producedBy SharedValue.fragmentColor lightingSource]
    [.assign (Catalog.value SharedValue.fragmentColor)
      (component (Catalog.value SharedValue.albedo) "rgb")]

/-- The lighting of the color pass; shadows fall only where there is a snippet that maps them. -/
def colorLighting (p : Permutation) (shadowScale : Float32) (select : Selection) : List Part :=
  if p.fragmentLighting then
    let shadow := if p.receivesShadows then job select .shadowMapping .fragment else []
    shadow ++ lighting p shadowScale select .fragment (!shadow.isEmpty)
  else if p.has .lighting then [ambient p .fragment]
  else [unlit]

/-- Who declares the parameters that the output of the fragment stage needs. -/
def outputSource : String := "output"

/-- Fragments that are more transparent than not are left out. -/
def alphaTest : Part :=
  .code [Catalog.readBy SharedValue.albedo "alpha_test"]
    [.discardIf (binary .less (component (Catalog.value SharedValue.albedo) "a") (literal "0.5"))]

/-- Components of the fragment stage's output. -/
def output (p : Permutation) (names : String) : Expression :=
  component (builtin p.dialect.fragmentOutput) names

/-- The color of the fragment with tone mapping, and fog if there is any. -/
def colorOutput (p : Permutation) : Part :=
  let color := Catalog.value SharedValue.fragmentColor
  let shown (e : Expression) : Statement :=
    .assign (output p "rgb") (binary .minus (literal "1.0") (call "exp" (negate e)))
  if p.has .fog then
    .code
      [Catalog.readBy SharedValue.fragmentColor outputSource,
        Catalog.readBy SharedValue.fog outputSource,
        Catalog.readBy EngineUniform.fogData outputSource]
      [shown (call "mix" (pair (component (Catalog.value EngineUniform.fogData) "rgb")
        (pair color (Catalog.value SharedValue.fog))))]
  else .code [Catalog.readBy SharedValue.fragmentColor outputSource] [shown color]

/-- The depth pass writes white. -/
def depthOutput (p : Permutation) : Part :=
  .code [] [.assign (output p "rgb") (call "vec3" (literal "1.0"))]

/-- The shadow pass writes what the shadow map is to hold. -/
def shadowOutput (p : Permutation) : Part :=
  .code [Catalog.readBy SharedValue.shadowMapData outputSource]
    [.assign (output p "rgb") (Catalog.value SharedValue.shadowMapData)]

/-- The opacity of the fragment. -/
def alphaOutput (p : Permutation) : Part :=
  if p.has .alphaWrite then
    .code [Catalog.readBy SharedValue.albedo outputSource]
      [.assign (output p "a") (component (Catalog.value SharedValue.albedo) "a")]
  else .code [] [.assign (output p "a") (literal "1.0")]

/-- The parts of the vertex stage. -/
def vertex (p : Permutation) (shadowScale : Float32) (select : Selection) : List Part :=
  job select p.worldRole .vertex ++
    [projection] ++
    when (p.has .viewPosition) (job select .viewTransformation .vertex) ++
    when (p.purpose = .color && p.has .fog) (job select .fog .vertex) ++
    when p.vertexLighting (lighting p shadowScale select .vertex false) ++
    when p.receivesShadows (job select .shadowUv .vertex) ++
    job select .uv .vertex

/-- What the passes differ in at the end of the fragment stage. -/
def surface (p : Permutation) (shadowScale : Float32) (select : Selection) : List Part :=
  match p.purpose with
  | .color =>
    job select .specularMapping .fragment ++ colorLighting p shadowScale select ++ [colorOutput p]
  | .depth => [depthOutput p]
  | .shadow => job select .shadowMap .fragment ++ [shadowOutput p]

/-- The parts of the fragment stage. -/
def fragment (p : Permutation) (shadowScale : Float32) (select : Selection) : List Part :=
  let color := p.purpose = .color
  when (color && p.has .shadowUvDdxDdy) (job select .shadowUvDdxDdy .fragment) ++
    when (p.has .viewDirection) (job select .viewDirection .fragment) ++
    when (p.has .tbnMatrix) (job select .tbnMatrix .fragment) ++
    when color (job select .normalDepthMapping .fragment) ++
    when (color || p.has .transparent) (job select .diffuseMapping .fragment) ++
    when (p.has .alphaTest) [alphaTest] ++
    surface p shadowScale select ++
    [alphaOutput p]

/-- The parts of a stage. -/
def stage (p : Permutation) (shadowScale : Float32) (select : Selection) : Stage → List Part
  | .vertex => vertex p shadowScale select
  | .fragment => fragment p shadowScale select

end Plan

end ShaderComposition
