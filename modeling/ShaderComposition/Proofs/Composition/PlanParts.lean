import ShaderComposition.Composition.Plan

/-!
# What a plan holds

The parts of a stage are snippets of roles, one light block at most, and statements of the program's own.
The plans of both stages are laid out case by case, which `Plan.listed` goes through once: whatever is
known of a part of a plan is read off the three kinds.
-/

namespace ShaderComposition

namespace Plan

/-- The parts that are statements of the program's own. -/
def ownCode (p : Permutation) : List Part :=
  [projection, ambient p .vertex, ambient p .fragment, unlit, alphaTest, colorOutput p,
    depthOutput p, shadowOutput p, alphaOutput p]

/-- Whether a stage handles lights. -/
def lit (p : Permutation) : Stage → Bool
  | .vertex => p.vertexLighting
  | .fragment => p.fragmentLighting

/-- Whether a light block of the stage is shadowed: only where there is a snippet that maps shadows. -/
def shadowed (p : Permutation) (select : Selection) : Stage → Bool
  | .vertex => false
  | .fragment => p.receivesShadows && (select .shadowMapping .fragment).isSome

/-- The parts that the plan of a stage can hold. Only a light block writes a light snippet. -/
inductive Listed (p : Permutation) (scale : Float32) (select : Selection) (stage : Stage) : Part → Prop
  | job {role : Role} {s : Snippet} :
      role ≠ .light → select role stage = some s → Listed p scale select stage (.snippet s)
  | lights {light : Snippet} :
      lit p stage = true → select .light stage = some light →
      Listed p scale select stage
        (.lights (.forStage p scale stage light (shadowed p select stage)))
  | code {part : Part} : part ∈ ownCode p → Listed p scale select stage part

variable {p : Permutation} {scale : Float32} {select : Selection} {stage : Stage} {role : Role}
  {needed : Bool} {part : Part} {parts : List Part} {b : LightBlock}

theorem mem_when : part ∈ when needed parts ↔ needed = true ∧ part ∈ parts := by
  cases needed <;> simp [when]

theorem listed_job (other : role ≠ .light) (h : part ∈ job select role stage) :
    Listed p scale select stage part := by
  unfold job at h
  cases found : select role stage with
  | none => simp [found] at h
  | some s =>
    simp only [found, Option.map_some, Option.toList_some, List.mem_singleton] at h
    subst h
    exact .job other found

theorem ambient_mem_ownCode : ambient p stage ∈ ownCode p := by
  cases stage <;> simp [ownCode]

theorem listed_lighting (on : lit p stage = true)
    (h : part ∈ lighting p scale select stage (shadowed p select stage)) :
    Listed p scale select stage part := by
  unfold lighting at h
  split at h
  next found =>
    rw [List.mem_singleton.1 h]
    exact .lights on found
  next =>
    rw [List.mem_singleton.1 h]
    exact .code ambient_mem_ownCode

theorem worldRole_ne_light (p : Permutation) : p.worldRole ≠ .light := by
  unfold Permutation.worldRole
  split
  · decide
  · split <;> decide

theorem listed_vertex (h : part ∈ vertex p scale select) : Listed p scale select .vertex part := by
  simp only [vertex, List.mem_append, List.mem_singleton, mem_when] at h
  rcases h with (((((world | projected) | ⟨-, view⟩) | ⟨-, fog⟩) | ⟨on, loop⟩) | ⟨-, shadow⟩) | uv
  · exact listed_job (worldRole_ne_light p) world
  · exact .code (by simp [ownCode, projected])
  · exact listed_job (by decide) view
  · exact listed_job (by decide) fog
  · exact listed_lighting on loop
  · exact listed_job (by decide) shadow
  · exact listed_job (by decide) uv

/-- Shadows are mapped in front of the light block just where it is shadowed. -/
theorem isEmpty_shadowMapping (p : Permutation) (select : Selection) :
    (!(if p.receivesShadows then job select .shadowMapping .fragment else []).isEmpty) =
      shadowed p select .fragment := by
  unfold shadowed job
  cases p.receivesShadows <;> cases select .shadowMapping .fragment <;> rfl

theorem listed_colorLighting (h : part ∈ colorLighting p scale select) :
    Listed p scale select .fragment part := by
  unfold colorLighting at h
  split at h
  next on =>
    rcases List.mem_append.1 h with shadow | loop
    · split at shadow
      · exact listed_job (by decide) shadow
      · cases shadow
    · rw [isEmpty_shadowMapping] at loop
      exact listed_lighting on loop
  next =>
    split at h
    · rw [List.mem_singleton.1 h]
      exact .code ambient_mem_ownCode
    · exact .code (by simp [ownCode, List.mem_singleton.1 h])

theorem listed_surface (h : part ∈ surface p scale select) : Listed p scale select .fragment part := by
  unfold surface at h
  split at h
  · simp only [List.mem_append, List.mem_singleton] at h
    rcases h with (specular | loop) | color
    · exact listed_job (by decide) specular
    · exact listed_colorLighting loop
    · exact .code (by simp [ownCode, color])
  · exact .code (by simp [ownCode, List.mem_singleton.1 h])
  · simp only [List.mem_append, List.mem_singleton] at h
    rcases h with map | shadow
    · exact listed_job (by decide) map
    · exact .code (by simp [ownCode, shadow])

theorem listed_fragment (h : part ∈ fragment p scale select) :
    Listed p scale select .fragment part := by
  simp only [fragment, List.mem_append, List.mem_singleton, mem_when] at h
  rcases h with ((((((⟨-, uvs⟩ | ⟨-, view⟩) | ⟨-, frame⟩) | ⟨-, normal⟩) | ⟨-, diffuse⟩) |
    ⟨-, alpha⟩) | surface) | opacity
  · exact listed_job (by decide) uvs
  · exact listed_job (by decide) view
  · exact listed_job (by decide) frame
  · exact listed_job (by decide) normal
  · exact listed_job (by decide) diffuse
  · exact .code (by simp [ownCode, alpha])
  · exact listed_surface surface
  · exact .code (by simp [ownCode, opacity])

/-- Every part of a plan is of one of the three kinds. -/
theorem listed (h : part ∈ Plan.stage p scale select stage) : Listed p scale select stage part := by
  cases stage with
  | vertex => exact listed_vertex h
  | fragment => exact listed_fragment h

theorem exists_code_of_own (member : part ∈ ownCode p) :
    ∃ parameters statements, part = .code parameters statements := by
  simp only [ownCode, List.mem_cons, List.not_mem_nil, or_false] at member
  rcases member with rfl | rfl | rfl | rfl | rfl | rfl | rfl | rfl | rfl
  · exact ⟨_, _, rfl⟩
  · exact ⟨_, _, rfl⟩
  · exact ⟨_, _, rfl⟩
  · exact ⟨_, _, rfl⟩
  · exact ⟨_, _, rfl⟩
  · unfold colorOutput
    split <;> exact ⟨_, _, rfl⟩
  · exact ⟨_, _, rfl⟩
  · exact ⟨_, _, rfl⟩
  · unfold alphaOutput
    split <;> exact ⟨_, _, rfl⟩

/-- The light block of a stage is made around the light snippet of the stage. -/
theorem Listed.lights_eq (h : Listed p scale select stage (.lights b)) :
    lit p stage = true ∧ ∃ light, select .light stage = some light ∧
      b = .forStage p scale stage light (shadowed p select stage) := by
  cases h with
  | lights on found => exact ⟨on, _, found, rfl⟩
  | code own =>
    obtain ⟨_, _, code⟩ := exists_code_of_own own
    cases code

end Plan

end ShaderComposition
