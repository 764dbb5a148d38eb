import ShaderComposition.Catalog.SharedValue
import ShaderComposition.Library
import ShaderComposition.Permutation

/-!
# Which snippets a program needs

A permutation schedules roles for the stages. Some features are not asked for but follow from what
the scheduled snippets read; they are derived in a fixed order, each with those before it in force.
-/

namespace ShaderComposition

/-- The snippet that does the job of a role in a stage, if there is one. -/
abbrev Selection := Role → Stage → Option Snippet

/-- The snippets that a library has for the bindings of a permutation. -/
def Library.select (library : Library) (p : Permutation) : Selection := fun role stage =>
  match p.bindings.name? role with
  | none => none
  | some name => library.lookup role name stage p.dialect p.packing

namespace Permutation

/-- The role that transforms vertices: the one that yields as much as is read. -/
def worldRole (p : Permutation) : Role :=
  if p.has .tangent then .worldTangentTransformation
  else if p.has .normal then .worldNormalTransformation
  else .worldDepthTransformation

/-- The roles that the color pass, the transparent passes and the shadow pass need, in order. -/
def schedule (p : Permutation) : List (Role × Stage) :=
  let color := p.purpose = .color
  let when (needed : Bool) (role : Role) (stage : Stage) := if needed then [(role, stage)] else []
  [(p.worldRole, .vertex)] ++
    when (p.has .viewPosition) .viewTransformation .vertex ++
    when (color && p.has .fog) .fog .vertex ++
    when p.vertexLighting .light .vertex ++
    when p.receivesShadows .shadowUv .vertex ++
    [(.uv, .vertex)] ++
    when (color && p.has .shadowUvDdxDdy) .shadowUvDdxDdy .fragment ++
    when (p.has .viewDirection) .viewDirection .fragment ++
    when (p.has .tbnMatrix) .tbnMatrix .fragment ++
    when color .normalDepthMapping .fragment ++
    when (color || p.has .transparent) .diffuseMapping .fragment ++
    when color .specularMapping .fragment ++
    when p.receivesShadows .shadowMapping .fragment ++
    when p.fragmentLighting .light .fragment ++
    when (p.purpose = .shadow) .shadowMap .fragment

/-- A scheduled snippet reads the value. -/
def reads (p : Permutation) (select : Selection) (value : SharedValue) : Bool :=
  p.schedule.any fun (role, stage) =>
    (select role stage).any (·.reads (Vocabulary.spelling value))

/-- The derived features with the values whose readers ask for them, in order of derivation. -/
def derivations : List (Feature × SharedValue) := [
  (.viewDirection, .worldViewDirection),
  (.shadowUvDdxDdy, .shadowUvDdxDdy),
  (.tbnMatrix, .tbnMatrix),
  (.viewPosition, .viewPosition),
  (.normal, .worldNormal),
  (.tangent, .worldTangent)]

/-- Switches a feature by whether a scheduled snippet reads the value. -/
def derive (select : Selection) (p : Permutation) (f : Feature) (value : SharedValue) :
    Permutation :=
  { p with features := p.features.set f (p.reads select value) }

/-- The permutation with its derived features worked out anew. -/
def deriveFeatures (select : Selection) (p : Permutation) : Permutation :=
  let plain := { p with features := p.features.without .derived }
  let read := derivations.foldl (fun q (f, value) => q.derive select f value) plain
  if read.vertexLighting then { read with features := read.features.union (.only .normal) }
  else read

end Permutation

end ShaderComposition
