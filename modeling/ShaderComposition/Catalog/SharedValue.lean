import ShaderComposition.Catalog

/-!
# Values that snippets share

The values that one snippet produces and another reads, in the same stage or in the next.
-/

namespace ShaderComposition

/-- Values that snippets hand on to each other, inside a stage or across stages. -/
inductive SharedValue
  | diffuseColor | specularColor | shadow | lightColor | lightPosition | worldPosition
  | worldNormal | worldTangent | worldViewDirection | worldUv | viewPosition | albedo
  | specular | gloss | fragmentNormal | fog | shadowUvs | shadowViewDistance | shadowMapData
  | tbnMatrix | emission | worldExtraUv | terrainUvs | shadowUvDdxDdy | vertexColor
  | fragmentColor
deriving DecidableEq

instance : Vocabulary SharedValue where
  catalog := "common parameter"
  symbols := [
    .diffuseColor, .specularColor, .shadow, .lightColor, .lightPosition, .worldPosition,
    .worldNormal, .worldTangent, .worldViewDirection, .worldUv, .viewPosition, .albedo,
    .specular, .gloss, .fragmentNormal, .fog, .shadowUvs, .shadowViewDistance, .shadowMapData,
    .tbnMatrix, .emission, .worldExtraUv, .terrainUvs, .shadowUvDdxDdy, .vertexColor,
    .fragmentColor]
  spelling
    | .diffuseColor => "diffuse_color"
    | .specularColor => "specular_color"
    | .shadow => "shadow"
    | .lightColor => "light_color"
    | .lightPosition => "light_position"
    | .worldPosition => "world_position"
    | .worldNormal => "world_normal"
    | .worldTangent => "world_tangent"
    | .worldViewDirection => "world_view_direction"
    | .worldUv => "world_uv"
    | .viewPosition => "view_position"
    | .albedo => "albedo"
    | .specular => "specular"
    | .gloss => "gloss"
    | .fragmentNormal => "fragment_normal"
    | .fog => "fog"
    | .shadowUvs => "shadow_uvs"
    | .shadowViewDistance => "shadow_view_distance"
    | .shadowMapData => "shadow_map_data"
    | .tbnMatrix => "tbn_matrix"
    | .emission => "emission"
    | .worldExtraUv => "world_extra_uv"
    | .terrainUvs => "terrain_uvs"
    | .shadowUvDdxDdy => "shadow_uv_ddx_ddy"
    | .vertexColor => "vertex_color"
    | .fragmentColor => "fragment_color"
  complete := by intro a; cases a <;> decide
  distinct := by decide

instance : Catalog SharedValue where
  shape
    | .diffuseColor | .specularColor | .worldPosition | .worldNormal | .viewPosition | .specular
    | .fragmentNormal | .shadowMapData | .emission | .vertexColor | .fragmentColor =>
      { type := .data .vec3 }
    | .shadow | .gloss | .fog => { type := .data .float }
    | .lightColor | .lightPosition | .worldTangent | .worldViewDirection | .albedo
    | .shadowViewDistance | .shadowUvDdxDdy => { type := .data .vec4 }
    | .worldUv | .worldExtraUv => { type := .data .vec2 }
    | .shadowUvs => { type := .data .vec4, sizeClass := .shadowMaps }
    | .tbnMatrix => { type := .data .mat3 }
    | .terrainUvs => { type := .data .vec2, sizeClass := .clipmapSlices }

end ShaderComposition
