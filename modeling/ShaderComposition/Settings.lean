import ShaderComposition.Bindings

/-!
# Settings

What all programs of one engine have in common: how many lights, bones and layers they are built
for, how dark shadows are, and which snippets do the jobs that a material says nothing about.
-/

namespace ShaderComposition

/-- The settings that every program of an engine is built with. -/
@[ext]
structure Settings where
  /-- The part of the first light's diffuse term that shadows can remove. -/
  shadowScale : Float32 := 0.8
  /-- How many lights the vertex stage may handle. -/
  vertexLights : UInt16 := 4
  /-- How many lights the fragment stage may handle. -/
  fragmentLights : UInt16 := 4
  bones : UInt16 := 72
  /-- The light loop of the fragment stage reads its bound from a uniform. -/
  dynamicLights : Bool := false
  clipmapSlices : UInt16 := 4
  layers : UInt16 := 4
  /-- Every role but the light has a snippet called `default`. -/
  defaultBindings : Bindings := ⟨fun r => if r = .light then none else some "default"⟩

namespace Settings

def bindDefault (s : Settings) (role : Role) (name : String) : Settings :=
  { s with defaultBindings := s.defaultBindings.bind role name }

/-- Chooses a shadow technique: the roles that belong to it are bound together. -/
def useShadowTechnique (s : Settings) (name : String) : Settings :=
  { s with
    defaultBindings := s.defaultBindings.bindAll [.shadowUv, .shadowMapping, .shadowMap] name }

end Settings

end ShaderComposition
