import ShaderComposition.Program.Emission

/-!
# Optimizers

An optimizer replaces the text of one stage by a better one. Both stages are replaced or neither:
when a stage is refused, the program keeps its text and says what was refused.
-/

namespace ShaderComposition

/-- Replaces the text of a stage, which is given and handed back without its preamble. -/
abbrev Optimizer := (preamble source : String) → Stage → Except OptimizationFailure String

namespace Emission

/-- The full text of a stage after replacement; a failure is told the texts of both stages. -/
def optimizeStage (e : Emission) (optimize : Optimizer) (stage : Stage) :
    Except OptimizationFailure String :=
  match optimize (e.preamble stage) (e.body stage) stage with
  | .ok body => .ok (e.preamble stage ++ body)
  | .error failure =>
    .error { failure with vertexSource := e.vertexText, fragmentSource := e.fragmentText }

/-- The full texts of both stages after replacement, the vertex stage first. -/
def optimizeStages (e : Emission) (optimize : Optimizer) :
    Except OptimizationFailure (String × String) := do
  let vertex ← e.optimizeStage optimize .vertex
  let fragment ← e.optimizeStage optimize .fragment
  return (vertex, fragment)

/-- The program after an attempt to optimize it. -/
def optimized (e : Emission) (optimize : Optimizer) : Emission :=
  match e.optimizeStages optimize with
  | .ok (vertex, fragment) =>
    { e with vertexText := vertex, fragmentText := fragment, optimization := .applied }
  | .error failure => { e with optimization := .failed failure }

end Emission

end ShaderComposition
