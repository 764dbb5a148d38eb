import ShaderComposition.Composition.Plan

/-!
# Putting a stage together

The parts of a stage are taken in order. Each declares its parameters in the scope of the stage and
adds its text; the first parameter that is refused ends the build.
-/

namespace ShaderComposition

/-- A stage as far as it is put together: what is declared, and the text of the main function. -/
structure StageSource where
  scope : Scope
  main : String := ""

namespace StageSource

/-- Adds one part. -/
def add (lengths : ArrayLengths) (s : StageSource) : Part → Except BuildError StageSource
  | .snippet snippet => do
    let scope ← s.scope.extend snippet.parameters
    return ⟨scope, s.main ++ snippet.text 1⟩
  | .code parameters statements => do
    let scope ← s.scope.extend parameters
    return ⟨scope, s.main ++ Statement.lines 1 statements⟩
  | .lights block => do
    let inner ← block.scope
    let scope ← s.scope.extend inner.globals
    return ⟨scope, s.main ++ block.text inner.locals lengths⟩

/-- Adds parts in order. -/
def addAll (lengths : ArrayLengths) (s : StageSource) : List Part → Except BuildError StageSource
  | [] => .ok s
  | part :: rest => do (← s.add lengths part).addAll lengths rest

/-- A stage made of the given parts. -/
def ofParts (lengths : ArrayLengths) (stage : Stage) (parts : List Part) :
    Except BuildError StageSource :=
  addAll lengths { scope := { stage } } parts

end StageSource

end ShaderComposition
