import ShaderComposition.Bindings.Json
import ShaderComposition.Settings

/-!
# Reading settings

Every field may be left out; those that are given replace the defaults.
-/

namespace ShaderComposition.Settings

def fields : List (JsonField Settings) := [
  { name := "shadow_scale"
    read := fun value s => do return { s with shadowScale := ← value.readSingle } },
  { name := "vertex_lights_count"
    read := fun value s => do return { s with vertexLights := ← value.readUInt16 } },
  { name := "fragment_lights_count"
    read := fun value s => do return { s with fragmentLights := ← value.readUInt16 } },
  { name := "bones_count"
    read := fun value s => do return { s with bones := ← value.readUInt16 } },
  { name := "dynamic_lights_count"
    read := fun value s => do return { s with dynamicLights := ← value.readBool } },
  { name := "clipmap_slices"
    read := fun value s => do return { s with clipmapSlices := ← value.readUInt16 } },
  { name := "layer_count"
    read := fun value s => do return { s with layers := ← value.readUInt16 } },
  { name := "default_bindings"
    read := fun value s => do return { s with defaultBindings := ← Bindings.read value } }]

def record : JsonRecord Settings :=
  { name := "struct ComposerConfig", fields, default := {} }

/-- The settings that a text describes. -/
def ofText (text : String) : Except ReadError Settings :=
  Json.readText record.read text

end ShaderComposition.Settings
