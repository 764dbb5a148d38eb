import ShaderComposition.Catalog.Input
import ShaderComposition.Catalog.SharedValue
import ShaderComposition.Glsl.Expression
import ShaderComposition.Number.Fixed
import ShaderComposition.Permutation
import ShaderComposition.Scope
import ShaderComposition.Snippet.Text

/-!
# The light block

A light block runs the light snippet once for each light and adds up what comes out. The fragment
stage handles the first lights and the vertex stage those after them, whose sum it hands on as
`vertex_color`. Only the first light of the fragment stage is shadowed. What the block needs for
itself is local to it, so it does not meet the names of other blocks.
-/

namespace ShaderComposition

open Expression (var literal component element call pair binary group)

/-- Who declares the parameters that lighting needs. -/
def lightingSource : String := "lighting"

/-- The variable of a catalog symbol. -/
def Catalog.value {α : Type} [DecidableEq α] [Vocabulary α] (a : α) : Expression :=
  var (Vocabulary.spelling a)

/-- An expression, with the parameters that it reads. -/
structure Reading where
  parameters : List Parameter
  expression : Expression

/--
Where the diffuse sum starts. The fragment stage goes on from what the vertex stage handed over, if
it handles lights; otherwise the surroundings light every point by the direction of its normal.
-/
def ambientTerm (p : Permutation) (stage : Stage) : Reading :=
  if stage = .fragment && p.vertexLighting then
    ⟨[Catalog.readBy SharedValue.vertexColor lightingSource],
      Catalog.value SharedValue.vertexColor⟩
  else
    let normal := match stage with
      | .vertex => SharedValue.worldNormal
      | .fragment => SharedValue.fragmentNormal
    let hemispheres := EngineUniform.skyGroundHemispheres
    let hemisphere (n : Nat) := component (element (Catalog.value hemispheres) (.ofNat n)) "rgb"
    let half := literal "0.5"
    ⟨[Catalog.readBy hemispheres lightingSource, Catalog.readBy normal lightingSource],
      binary .plus (hemisphere 0) (binary .times (hemisphere 1)
        (group (binary .plus (binary .times half (component (Catalog.value normal) "z")) half)))⟩

/-- Where a light loop ends: after a fixed count, or where a component of a uniform says. -/
inductive LightBound
  | count (n : Nat)
  | dynamic (component : String)
deriving DecidableEq

/-- The lights that a loop runs over. -/
structure LightRange where
  first : Nat
  bound : LightBound
deriving DecidableEq

namespace LightRange

/--
The lights of a stage. The vertex stage always reads its end from the uniform, the fragment stage
where light counts are dynamic.
-/
def forStage (p : Permutation) : Stage → LightRange
  | .vertex => ⟨p.fragmentLights.toNat, .dynamic "z"⟩
  | .fragment =>
    ⟨0, if p.has .dynamicLightsCount then .dynamic "y" else .count p.fragmentLights.toNat⟩

/-- The end of the range, with the uniform that it is read from. -/
def end? (r : LightRange) : Reading :=
  match r.bound with
  | .count n => ⟨[], .ofNat n⟩
  | .dynamic name =>
    ⟨[Catalog.readBy EngineUniform.dynamicLightsCount lightingSource],
      component (Catalog.value EngineUniform.dynamicLightsCount) name⟩

end LightRange

/-- A loop over lights around the text of a light snippet. -/
structure LightBlock where
  stage : Stage
  light : Snippet
  /-- What the block declares for itself. -/
  scratch : List Parameter
  /-- What the block reads before the light snippet runs. -/
  inputs : List Parameter
  /-- What the block reads and produces after the loop. -/
  outputs : List Parameter
  range : LightRange
  /-- The statements before the loop. -/
  prologue : List Statement
  /-- The statements in the loop before the light snippet. -/
  fetch : List Statement
  /-- The statements in the loop after the light snippet. -/
  accumulate : List Statement
  /-- The statements after the loop. -/
  epilogue : List Statement

namespace LightBlock

/-- A value that the block declares for itself. -/
def scratchValue (name : String) (type : DataType) : Parameter where
  name
  shape := { type := .data type }
  qualifier := .output
  source := lightingSource

/-- The scale of shadows within its limits. -/
def clampScale (scale : Float32) : Float32 :=
  if scale < 0 then 0 else if 1 < scale then 1 else scale

/--
How much of the diffuse term, of the specular term and of all later lights a shadow lets through: the
first light gets the first two, and every other one the third twice.
-/
def shadowFactors (scale : Float32) : Expression :=
  let shadow := Catalog.value SharedValue.shadow
  let kept := floatLiteral (clampScale scale)
  let rest := floatLiteral (1 - clampScale scale)
  call "vec3" (pair (binary .plus (binary .times shadow (literal kept)) (literal rest))
    (pair shadow (literal "1.0")))

/-- The variable that the light loop counts in. -/
def index : Expression := var "i"

/-- The variable that holds the sum of the diffuse terms. -/
def diffuseSum : Expression := var "diffuse_colors_sum"

/-- The variable that holds the sum of the specular terms. -/
def specularSum : Expression := var "specular_colors_sum"

/-- The variable that holds what the shadow lets through. -/
def shadowValues : Expression := var "shadow_values"

/-- What one light adds to a sum: its color, or what the shadow lets through of it. -/
def contribution (shadowed : Bool) (color : SharedValue) (factor : String) : Expression :=
  if shadowed then binary .times (Catalog.value color) (component shadowValues factor)
  else Catalog.value color

/-- A shared value as lighting reads it. -/
def read (v : SharedValue) : Parameter :=
  Catalog.readBy v lightingSource

/-- A shared value as lighting produces it. -/
def produced (v : SharedValue) : Parameter :=
  Catalog.producedBy v lightingSource

/-- The light block of a stage around a light snippet. -/
def forStage (p : Permutation) (shadowScale : Float32) (stage : Stage) (light : Snippet)
    (shadowed : Bool) : LightBlock :=
  let fragment := stage = .fragment
  let shadowed := shadowed && fragment
  let onFragment {α : Type} (items : List α) : List α := if fragment then items else []
  let whenShadowed {α : Type} (items : List α) : List α := if shadowed then items else []
  let ambient := ambientTerm p stage
  let range := LightRange.forStage p stage
  { stage
    light
    scratch :=
      [scratchValue "i" .int, scratchValue "diffuse_colors_sum" .vec3] ++
      onFragment [scratchValue "specular_colors_sum" .vec3] ++
      whenShadowed [scratchValue "shadow_values" .vec3] ++
      [produced .lightColor, produced .lightPosition]
    inputs :=
      ambient.parameters ++
      onFragment [read .emission] ++
      whenShadowed [read .shadow] ++
      range.end?.parameters ++
      [Catalog.readBy EngineUniform.lightColors lightingSource,
        Catalog.readBy EngineUniform.lightPositions lightingSource]
    outputs := match stage with
      | .vertex => [produced .vertexColor]
      | .fragment => [read .albedo, read .specular, produced .fragmentColor]
    range
    prologue :=
      [.assign diffuseSum ambient.expression] ++
      onFragment [
        .increase diffuseSum (Catalog.value SharedValue.emission),
        .assign specularSum (call "vec3" (literal "0.0"))] ++
      whenShadowed [.assign shadowValues (shadowFactors shadowScale)]
    fetch := [
      .assign (Catalog.value SharedValue.lightColor)
        (element (Catalog.value EngineUniform.lightColors) index),
      .assign (Catalog.value SharedValue.lightPosition)
        (element (Catalog.value EngineUniform.lightPositions) index)]
    accumulate :=
      [.increase diffuseSum (contribution shadowed .diffuseColor "x")] ++
      onFragment [.increase specularSum (contribution shadowed .specularColor "y")] ++
      whenShadowed [.assign (component shadowValues "xy") (component shadowValues "zz")]
    epilogue := match stage with
      | .vertex => [.assign (Catalog.value SharedValue.vertexColor) diffuseSum]
      | .fragment => [
        .assign (Catalog.value SharedValue.fragmentColor)
          (binary .times diffuseSum (component (Catalog.value SharedValue.albedo) "rgb")),
        .increase (Catalog.value SharedValue.fragmentColor)
          (binary .times (Catalog.value SharedValue.specular) specularSum)] }

/-- The results of a light snippet, which the block keeps to itself. -/
def results : List SharedValue :=
  [.diffuseColor, .specularColor]

/-- The scope of the block: what stays inside it are its locals. -/
def scope (b : LightBlock) : Except BuildError Scope := do
  let own ← Scope.extendLocals { stage := b.stage } b.scratch
  let lit ← own.extend (b.inputs ++ b.light.parameters)
  (results.foldl (fun s v => s.demote (Vocabulary.spelling v)) lit).extend b.outputs

/-- The loop and what stands before and after it. -/
def loopText (b : LightBlock) : String :=
  Statement.lines 2 b.prologue ++
  Text.line 2 ("for (i = " ++ toString b.range.first ++ "; i < " ++ b.range.end?.expression.text ++
    "; ++i)") ++
  Text.line 2 "\x7b" ++
  Statement.lines 3 b.fetch ++ b.light.text 3 ++ Statement.lines 3 b.accumulate ++
  Text.line 2 "\x7d" ++
  Statement.lines 2 b.epilogue

/-- The block with the declarations of its locals. -/
def text (b : LightBlock) (locals : List Parameter) (lengths : ArrayLengths) : String :=
  Text.line 1 ("/* " ++ lightingSource ++ " */") ++ Text.line 1 "\x7b" ++
  String.join (locals.map fun p => Text.line 2 (p.declaration lengths ++ ";")) ++ "\n" ++
  b.loopText ++ Text.line 1 "\x7d"

/-- The declared variables that the block's own statements use. -/
def uses (b : LightBlock) : List String :=
  (b.prologue ++ b.fetch ++ b.accumulate ++ b.epilogue).flatMap Statement.uses ++
    "i" :: b.range.end?.expression.uses

end LightBlock

end ShaderComposition
