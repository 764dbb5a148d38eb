import ShaderComposition.Bindings.Json
import ShaderComposition.Material

/-!
# Reading materials

Every field may be left out; those that are given replace the defaults. What is left out is as in a
material that says nothing, but for the shadows: they are received unless the text says otherwise.
-/

namespace ShaderComposition.Material

def fields : List (JsonField Material) := [
  { name := "name"
    read := fun value m => do return { m with name := ← value.readString } },
  { name := "bindings"
    read := fun value m => do return { m with bindings := ← Bindings.read value } },
  { name := "lighting"
    read := fun value m => do return { m with lighting := ← value.readOptionalString } },
  { name := "world_transformation"
    read := fun value m => do return { m with worldTransformation := ← value.readOptionalString } },
  { name := "transparent"
    read := fun value m => do return { m with transparent := ← value.readBool } },
  { name := "receives_shadows"
    read := fun value m => do return { m with receivesShadows := ← value.readBool } },
  { name := "merged"
    read := fun value m => do return { m with merged := ← value.readBool } }]

def record : JsonRecord Material :=
  { name := "struct MaterialDescription", fields, default := { unset with receivesShadows := true } }

/-- The material that a text describes. -/
def ofText (text : String) : Except ReadError Material :=
  Json.readText record.read text

end ShaderComposition.Material
