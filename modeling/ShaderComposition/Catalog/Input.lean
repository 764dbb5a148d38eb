import ShaderComposition.Catalog

/-!
# What a program is given

The uniforms that the engine supplies, the texture samplers, and the inputs of each vertex.
-/

namespace ShaderComposition

/-- Uniforms that the engine supplies. -/
inductive EngineUniform
  | worldTransformation | viewRotationMatrix | viewMatrix | projectionMatrix
  | projectionViewMatrix | reflectionMatrix | shadowTextureMatrices | lightPositions
  | lightColors | skyGroundHemispheres | dynamicLightsCount | bones | time | fogData | camera
  | shadowDistanceTransform | splitDistances | layers | textureMatrices | albedoScaleOffsets
  | emissionScaleOffset | specularScaleOffset | dudvScale | blendSizes | materialColor
  | terrainScale | terrainTextureSize | clipmapMatrices | zParams | terrainLodOffset
  | screenSize
deriving DecidableEq

instance : Vocabulary EngineUniform where
  catalog := "auto parameter"
  symbols := [
    .worldTransformation, .viewRotationMatrix, .viewMatrix, .projectionMatrix,
    .projectionViewMatrix, .reflectionMatrix, .shadowTextureMatrices, .lightPositions,
    .lightColors, .skyGroundHemispheres, .dynamicLightsCount, .bones, .time, .fogData, .camera,
    .shadowDistanceTransform, .splitDistances, .layers, .textureMatrices, .albedoScaleOffsets,
    .emissionScaleOffset, .specularScaleOffset, .dudvScale, .blendSizes, .materialColor,
    .terrainScale, .terrainTextureSize, .clipmapMatrices, .zParams, .terrainLodOffset,
    .screenSize]
  spelling
    | .worldTransformation => "world_transformation"
    | .viewRotationMatrix => "view_rotation_matrix"
    | .viewMatrix => "view_matrix"
    | .projectionMatrix => "projection_matrix"
    | .projectionViewMatrix => "projection_view_matrix"
    | .reflectionMatrix => "reflection_matrix"
    | .shadowTextureMatrices => "shadow_texture_matrices"
    | .lightPositions => "light_positions"
    | .lightColors => "light_colors"
    | .skyGroundHemispheres => "sky_ground_hemispheres"
    | .dynamicLightsCount => "dynamic_lights_count"
    | .bones => "bones"
    | .time => "time"
    | .fogData => "fog_data"
    | .camera => "camera"
    | .shadowDistanceTransform => "shadow_distance_transform"
    | .splitDistances => "split_distances"
    | .layers => "layers"
    | .textureMatrices => "texture_matrices"
    | .albedoScaleOffsets => "albedo_scale_offsets"
    | .emissionScaleOffset => "emission_scale_offset"
    | .specularScaleOffset => "specular_scale_offset"
    | .dudvScale => "dudv_scale"
    | .blendSizes => "blend_sizes"
    | .materialColor => "material_color"
    | .terrainScale => "terrain_scale"
    | .terrainTextureSize => "terrain_texture_size"
    | .clipmapMatrices => "clipmap_matrices"
    | .zParams => "z_params"
    | .terrainLodOffset => "terrain_lod_offset"
    | .screenSize => "screen_size"
  complete := by intro a; cases a <;> decide
  distinct := by decide

instance : Catalog EngineUniform where
  shape
    | .worldTransformation => { type := .data .mat4x3 }
    | .viewRotationMatrix => { type := .data .mat3 }
    | .viewMatrix | .projectionMatrix | .projectionViewMatrix | .reflectionMatrix =>
      { type := .data .mat4 }
    | .shadowTextureMatrices => { type := .data .mat4, sizeClass := .shadowMaps }
    | .lightPositions | .lightColors => { type := .data .vec4, sizeClass := .lights }
    | .skyGroundHemispheres => { type := .data .vec4, scale := .ofUInt16 2 }
    | .dynamicLightsCount => { type := .data .ivec3 }
    | .bones => { type := .data .mat2x4, sizeClass := .bones }
    | .time => { type := .data .float }
    | .layers => { type := .data .ivec4, sizeClass := .layers }
    | .textureMatrices => { type := .data .mat2x3, scale := .ofUInt16 2 }
    | .albedoScaleOffsets => { type := .data .mat2x4, scale := .ofUInt16 4 }
    | .emissionScaleOffset => { type := .data .mat2x3 }
    | .dudvScale => { type := .data .vec2 }
    | .blendSizes => { type := .data .vec4, scale := .ofUInt16 4 }
    | .clipmapMatrices => { type := .data .mat2x3, sizeClass := .clipmapSlices }
    | .fogData | .camera | .shadowDistanceTransform | .splitDistances | .specularScaleOffset
    | .materialColor | .terrainScale | .terrainTextureSize | .zParams | .terrainLodOffset
    | .screenSize => { type := .data .vec4 }

/-- Texture samplers, each bound to the unit that is its place in this list. -/
inductive TextureSlot
  | albedoSampler0 | albedoSampler1 | albedoSampler2 | albedoSampler3 | normalSampler
  | specularSampler | emissionSampler | blendSampler | vertexVectorSampler
  | vertexNormalSampler | vertexDudvSampler | lightPositionsSampler | lightColorsSampler
  | lightIndicesSampler | colorCorrectionSampler | shadowSampler
deriving DecidableEq

instance : Vocabulary TextureSlot where
  catalog := "sampler parameter"
  symbols := [
    .albedoSampler0, .albedoSampler1, .albedoSampler2, .albedoSampler3, .normalSampler,
    .specularSampler, .emissionSampler, .blendSampler, .vertexVectorSampler,
    .vertexNormalSampler, .vertexDudvSampler, .lightPositionsSampler, .lightColorsSampler,
    .lightIndicesSampler, .colorCorrectionSampler, .shadowSampler]
  spelling
    | .albedoSampler0 => "albedo_sampler_0"
    | .albedoSampler1 => "albedo_sampler_1"
    | .albedoSampler2 => "albedo_sampler_2"
    | .albedoSampler3 => "albedo_sampler_3"
    | .normalSampler => "normal_sampler"
    | .specularSampler => "specular_sampler"
    | .emissionSampler => "emission_sampler"
    | .blendSampler => "blend_sampler"
    | .vertexVectorSampler => "vertex_vector_sampler"
    | .vertexNormalSampler => "vertex_normal_sampler"
    | .vertexDudvSampler => "vertex_dudv_sampler"
    | .lightPositionsSampler => "light_positions_sampler"
    | .lightColorsSampler => "light_colors_sampler"
    | .lightIndicesSampler => "light_indices_sampler"
    | .colorCorrectionSampler => "color_correction_sampler"
    | .shadowSampler => "shadow_sampler"
  complete := by intro a; cases a <;> decide
  distinct := by decide

instance : Catalog TextureSlot where
  shape _ := { type := .sampler .sampler2D }

namespace TextureSlot

/-- The texture unit that the sampler is bound to. -/
def unit (s : TextureSlot) : Nat :=
  Vocabulary.position s

end TextureSlot

/-- Inputs that each vertex brings, each at the location that is its place in this list. -/
inductive VertexAttribute
  | position | normal | tangent | color | boneWeight | boneIndex | extraBoneWeight
  | extraBoneIndex | textureCoordinate0 | textureCoordinate1 | meshIndex | morphPosition
  | morphNormal | morphTangent | morphTextureCoordinate0 | morphTextureCoordinate1
deriving DecidableEq

instance : Vocabulary VertexAttribute where
  catalog := "vertex attribute"
  symbols := [
    .position, .normal, .tangent, .color, .boneWeight, .boneIndex, .extraBoneWeight,
    .extraBoneIndex, .textureCoordinate0, .textureCoordinate1, .meshIndex, .morphPosition,
    .morphNormal, .morphTangent, .morphTextureCoordinate0, .morphTextureCoordinate1]
  spelling
    | .position => "position"
    | .normal => "normal"
    | .tangent => "tangent"
    | .color => "color"
    | .boneWeight => "bone_weight"
    | .boneIndex => "bone_index"
    | .extraBoneWeight => "extra_bone_weight"
    | .extraBoneIndex => "extra_bone_index"
    | .textureCoordinate0 => "texture_coordinate_0"
    | .textureCoordinate1 => "texture_coordinate_1"
    | .meshIndex => "mesh_index"
    | .morphPosition => "morph_position"
    | .morphNormal => "morph_normal"
    | .morphTangent => "morph_tangent"
    | .morphTextureCoordinate0 => "morph_texture_coordinate_0"
    | .morphTextureCoordinate1 => "morph_texture_coordinate_1"
  complete := by intro a; cases a <;> decide
  distinct := by decide

instance : Catalog VertexAttribute where
  shape
    | .position | .normal | .morphPosition | .morphNormal => { type := .data .vec3 }
    | .textureCoordinate0 | .textureCoordinate1 | .morphTextureCoordinate0
    | .morphTextureCoordinate1 => { type := .data .vec2 }
    | .meshIndex => { type := .data .float }
    | .tangent | .color | .boneWeight | .boneIndex | .extraBoneWeight | .extraBoneIndex
    | .morphTangent => { type := .data .vec4 }

namespace VertexAttribute

/-- The location that the attribute is bound to. -/
def location (a : VertexAttribute) : Nat :=
  Vocabulary.position a

end VertexAttribute

end ShaderComposition
