import ShaderComposition.Glsl.Target

/-!
# Roles

A program is put together from snippets, one for each role that a permutation needs.
-/

namespace ShaderComposition

/-- The jobs that a snippet can do in a program. -/
inductive Role
  | worldDepthTransformation | worldNormalTransformation | worldTangentTransformation
  | viewTransformation | fog | light | shadowUv | uv | shadowUvDdxDdy | viewDirection
  | tbnMatrix | normalDepthMapping | diffuseMapping | specularMapping | shadowMapping
  | shadowMap
deriving DecidableEq

instance : Vocabulary Role where
  catalog := "role"
  symbols := [
    .worldDepthTransformation, .worldNormalTransformation, .worldTangentTransformation,
    .viewTransformation, .fog, .light, .shadowUv, .uv, .shadowUvDdxDdy, .viewDirection,
    .tbnMatrix, .normalDepthMapping, .diffuseMapping, .specularMapping, .shadowMapping,
    .shadowMap]
  spelling
    | .worldDepthTransformation => "world_depth_transformation"
    | .worldNormalTransformation => "world_normal_transformation"
    | .worldTangentTransformation => "world_tangent_transformation"
    | .viewTransformation => "view_transformation"
    | .fog => "fog"
    | .light => "light"
    | .shadowUv => "shadow_uv"
    | .uv => "uv"
    | .shadowUvDdxDdy => "shadow_uv_ddx_ddy"
    | .viewDirection => "view_direction"
    | .tbnMatrix => "tbn_matrix"
    | .normalDepthMapping => "normal_depth_mapping"
    | .diffuseMapping => "diffuse_mapping"
    | .specularMapping => "specular_mapping"
    | .shadowMapping => "shadow_mapping"
    | .shadowMap => "shadow_map"
  complete := by intro a; cases a <;> decide
  distinct := by decide

namespace Role

/-- The stages that a snippet of this role runs in unless it says otherwise. -/
def defaultStages : Role → SymbolSet Stage
  | .worldDepthTransformation | .worldNormalTransformation | .worldTangentTransformation
  | .viewTransformation | .fog | .shadowUv | .uv => .singleton .vertex
  | .light => .full
  | .shadowUvDdxDdy | .viewDirection | .tbnMatrix | .normalDepthMapping | .diffuseMapping
  | .specularMapping | .shadowMapping | .shadowMap => .singleton .fragment

end Role

end ShaderComposition
