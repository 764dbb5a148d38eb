import ShaderComposition.Composition.StageSource
import ShaderComposition.Program.Emission

/-!
# Building a program

A program is built from a permutation by deriving its features, putting both stages together, sorting
what they declare into an interface, and writing the text.
-/

namespace ShaderComposition

/-- Both stages of a program, put together. -/
structure StagePair where
  vertex : StageSource
  fragment : StageSource

namespace Permutation

/-- Puts both stages together, the vertex stage first. -/
def compose (shadowScale : Float32) (select : Selection) (p : Permutation) :
    Except BuildError StagePair := do
  let vertex ← StageSource.ofParts p.arrayLengths .vertex (Plan.vertex p shadowScale select)
  let fragment ← StageSource.ofParts p.arrayLengths .fragment (Plan.fragment p shadowScale select)
  return ⟨vertex, fragment⟩

end Permutation

namespace Library

/-- Builds the program of a permutation from the snippets of a library. -/
def build (library : Library) (settings : Settings) (p : Permutation) :
    Except BuildError Emission := do
  let select := library.select p
  let q := p.deriveFeatures select
  let stages ← q.compose settings.shadowScale select
  let interface := Interface.ofScopes stages.vertex.scope stages.fragment.scope
  return .ofInterface q interface stages.vertex.main stages.fragment.main

end Library

end ShaderComposition
