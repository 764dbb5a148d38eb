import ShaderComposition.Proofs.Composition.LightScope
import ShaderComposition.Proofs.Composition.PlanParts

/-!
# The program's own parts

A plan holds snippets, light blocks, and statements of the program's own (`Plan.listed`). Whatever
the snippets are, the program's own statements use nothing but what is declared beside them, except
for the results that a light block expects of its light snippet (`Plan.Listed.used`). What is declared
beside them is read or produced, never changed (`Plan.Listed.settled`), and never under the name of
such a result (`Plan.Listed.apart`).
-/

namespace ShaderComposition

namespace Part

variable {p : Permutation} {part : Part}

/-- The variables that a part's own statements use. -/
def uses : Part → List String
  | .snippet _ => []
  | .code _ statements => statements.flatMap Statement.uses
  | .lights block => block.uses

/-- What a part declares beside its own statements. -/
def own : Part → List Parameter
  | .snippet _ => []
  | .code parameters _ => parameters
  | .lights block => block.scratch ++ block.inputs ++ block.outputs

/-- The names that a part's own statements expect of its snippet. -/
def expected : Part → List String
  | .snippet _ | .code _ _ => []
  | .lights _ => LightBlock.resultNames

/--
The own statements of a part use what is declared beside them and what is expected of the snippet, and
what is declared beside them is read or produced under other names. This is a check, since for the
parts of a plan it comes out true whatever the permutation and the snippets are.
-/
def selfContained (part : Part) : Bool :=
  (part.uses.all fun n => (part.own.map (·.name) ++ part.expected).contains n) &&
    part.own.all fun d => d.qualifier ≠ .inout && !part.expected.contains d.name

theorem selfContained_iff :
    part.selfContained = true ↔
      (∀ n ∈ part.uses, (∃ d ∈ part.own, d.name = n) ∨ n ∈ part.expected) ∧
        ∀ d ∈ part.own, d.qualifier ≠ .inout ∧ d.name ∉ part.expected := by
  simp [selfContained]

theorem selfContained_ownCode (member : part ∈ Plan.ownCode p) : part.selfContained = true := by
  simp only [Plan.ownCode, List.mem_cons, List.not_mem_nil, or_false] at member
  rcases member with rfl | rfl | rfl | rfl | rfl | rfl | rfl | rfl | rfl
  · exact rfl
  · exact rfl
  · unfold Plan.ambient ambientTerm
    cases p.vertexLighting <;> rfl
  · exact rfl
  · exact rfl
  · unfold Plan.colorOutput
    split <;> rfl
  · exact rfl
  · exact rfl
  · unfold Plan.alphaOutput
    split <;> rfl

theorem selfContained_lights (p : Permutation) (scale : Float32) (stage : Stage) (light : Snippet)
    (shadowed : Bool) :
    (Part.lights (.forStage p scale stage light shadowed)).selfContained = true := by
  cases stage with
  | vertex => cases shadowed <;> rfl
  | fragment =>
    unfold LightBlock.forStage ambientTerm LightRange.forStage
    cases p.vertexLighting <;> cases p.has .dynamicLightsCount <;> cases shadowed <;> rfl

end Part

namespace Plan.Listed

variable {p : Permutation} {scale : Float32} {select : Selection} {stage : Stage} {part : Part}
  {b : LightBlock} {n : String} {d : Parameter}

theorem selfContained (h : Listed p scale select stage part) : part.selfContained = true := by
  cases h with
  | job other found => rfl
  | lights on found => exact Part.selfContained_lights p scale stage _ _
  | code own => exact Part.selfContained_ownCode own

/-- Apart from what is expected of its snippet, a part's own statements use what it declares. -/
theorem used (h : Listed p scale select stage part) (used : n ∈ part.uses) :
    (∃ d ∈ part.own, d.name = n) ∨ n ∈ part.expected :=
  (Part.selfContained_iff.1 h.selfContained).1 n used

/-- What a part declares beside its own statements is read or produced. -/
theorem settled (h : Listed p scale select stage part) (hd : d ∈ part.own) : d.qualifier ≠ .inout :=
  ((Part.selfContained_iff.1 h.selfContained).2 d hd).1

/-- What a part declares beside its own statements is nothing that it expects of its snippet. -/
theorem apart (h : Listed p scale select stage part) (hd : d ∈ part.own) : d.name ∉ part.expected :=
  ((Part.selfContained_iff.1 h.selfContained).2 d hd).2

/-- What a light block hands on to its stage is never a result of the light snippet. -/
theorem outputs_apart (h : Listed p scale select stage (.lights b)) :
    ∀ d ∈ b.outputs, d.name ∉ LightBlock.resultNames :=
  fun _ hd => h.apart (List.mem_append_right _ hd)

end Plan.Listed

end ShaderComposition
