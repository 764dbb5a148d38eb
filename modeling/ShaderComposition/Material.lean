import ShaderComposition.Bindings

/-!
# Materials and targets

A material says what its surface needs beyond the settings; a target says for which pass and with
how many lights and shadow maps a program is built.
-/

namespace ShaderComposition

/-- What a material asks for on top of the settings. -/
@[ext]
structure Material where
  name : String := ""
  bindings : Bindings := .empty
  /-- The light model; a material without one is not lit unless a light is bound otherwise. -/
  lighting : Option String := none
  /-- The snippet for all three transformations to world space. -/
  worldTransformation : Option String := none
  transparent : Bool := false
  receivesShadows : Bool := true
  /-- Snippets for merged texture layers are preferred. -/
  merged : Bool := false

namespace Material

/-- A material that says nothing, not even that it receives shadows. -/
def unset : Material :=
  { receivesShadows := false }

/-- A material of a name. It receives shadows, and says nothing else. -/
def new (name : String) : Material :=
  { unset with name, receivesShadows := true }

end Material

/-- What one program is built for. -/
structure Target where
  dialect : Dialect
  purpose : Purpose
  /-- The lights that the scene has. -/
  lights : UInt16 := 0
  shadowMaps : UInt16 := 0
  fog : Bool := false
deriving DecidableEq

end ShaderComposition
