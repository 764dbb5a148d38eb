import ShaderComposition.Features
import ShaderComposition.Glsl.ArrayLengths
import ShaderComposition.Material
import ShaderComposition.Settings

/-!
# Permutations

A permutation is everything that is decided about a program before it is put together: settings,
material and target merged into one value.
-/

namespace ShaderComposition

/-- The sum of two counts, or the largest count where there is none as large. -/
def addSaturating (m n : UInt16) : UInt16 :=
  .ofNat (min (m.toNat + n.toNat) 65535)

/-- The difference of two counts, or zero where the second is larger. -/
def subSaturating (m n : UInt16) : UInt16 :=
  if n ≤ m then m - n else 0

/-- How the lights of a scene are shared between the stages. -/
structure LightSplit where
  vertex : UInt16
  fragment : UInt16
deriving DecidableEq

namespace LightSplit

/--
Shares lights under a limit for each stage. The fragment stage is served first and the vertex stage
takes what is left over, so no light is counted twice.
-/
def ofLimits (vertex fragment lights : UInt16) : LightSplit where
  vertex := min vertex (subSaturating lights fragment)
  fragment := min fragment lights

end LightSplit

/-- One program's configuration. -/
@[ext]
structure Permutation where
  name : String
  bindings : Bindings
  dialect : Dialect
  purpose : Purpose
  packing : Packing
  features : Features
  vertexLights : UInt16
  fragmentLights : UInt16
  shadowMaps : UInt16
  bones : UInt16
  clipmapSlices : UInt16
  layers : UInt16

namespace Permutation

/-- The roles that one name binds when a material replaces the transformations to world space. -/
def worldTransformations : List Role :=
  [.worldDepthTransformation, .worldNormalTransformation, .worldTangentTransformation]

/-- The roles that are of use only where shadows are received. -/
def shadowRoles : List Role :=
  [.shadowUv, .shadowMapping, .shadowUvDdxDdy]

/-- The material is shadowed and there is something that casts shadows. -/
def isShadowed (material : Material) (target : Target) : Bool :=
  material.receivesShadows && 0 < target.shadowMaps

/-- The bindings of a program: defaults, what the material replaces, and no useless shadow roles. -/
def resolveBindings (settings : Settings) (material : Material) (target : Target) : Bindings :=
  let world := match material.worldTransformation with
    | some name => settings.defaultBindings.bindAll worldTransformations name
    | none => settings.defaultBindings
  let lit := match material.lighting with
    | some name => world.bind .light name
    | none => world
  let bound := lit.override material.bindings
  if isShadowed material target then bound else bound.unbindAll shadowRoles

/-- Merges the settings, what the material asks for, and the target. -/
def resolve (settings : Settings) (material : Material) (target : Target) : Permutation :=
  let bindings := resolveBindings settings material target
  let lights := LightSplit.ofLimits settings.vertexLights settings.fragmentLights
    (min target.lights (addSaturating settings.vertexLights settings.fragmentLights))
  { name := material.name
    bindings
    dialect := target.dialect
    purpose := target.purpose
    packing := if material.merged then .merged else .default
    features :=
      Features.none.set .transparent material.transparent
        |>.set .alphaTest material.transparent
        |>.set .alphaWrite (material.transparent && target.purpose = .color)
        |>.set .fog target.fog
        |>.set .lighting (bindings.name? .light).isSome
        |>.set .dynamicLightsCount settings.dynamicLights
    vertexLights := lights.vertex
    fragmentLights := lights.fragment
    shadowMaps := if isShadowed material target then target.shadowMaps else 0
    bones := settings.bones
    clipmapSlices := settings.clipmapSlices
    layers := settings.layers }

def lights (p : Permutation) : UInt16 :=
  addSaturating p.vertexLights p.fragmentLights

def has (p : Permutation) (f : Feature) : Bool :=
  p.features.has f

/-- The vertex stage handles the lights that the fragment stage leaves over. -/
def vertexLighting (p : Permutation) : Bool :=
  p.purpose = .color && 0 < p.vertexLights && p.has .lighting

/-- The fragment stage handles lights. -/
def fragmentLighting (p : Permutation) : Bool :=
  p.purpose = .color && 0 < p.fragmentLights && p.has .lighting

/-- Shadow maps are looked up while lighting. -/
def receivesShadows (p : Permutation) : Bool :=
  0 < p.shadowMaps && p.fragmentLighting

def arrayLengths (p : Permutation) : ArrayLengths where
  requested
    | .one => 0
    | .lights => p.lights
    | .bones => p.bones
    | .shadowMaps => p.shadowMaps
    | .layers => p.layers
    | .clipmapSlices => p.clipmapSlices

end Permutation

end ShaderComposition
