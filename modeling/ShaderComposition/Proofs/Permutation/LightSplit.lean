import ShaderComposition.Composition.LightBlock
import ShaderComposition.Proofs.Composition.LightCounts

/-!
# How lights are split

The fragment stage takes the first lights and the vertex stage those after them. Whatever the counts are,
the loops of the two stages share the lights of a program out (`handles_unique`, `exists_handles`). In a
program that settings and a target are resolved to, no count saturates: the stages together handle as
many lights as the settings allow and the target has.
-/

namespace ShaderComposition

theorem toNat_subSaturating (m n : UInt16) : (subSaturating m n).toNat = m.toNat - n.toNat := by
  unfold subSaturating
  split
  next less => exact UInt16.toNat_sub_of_le _ _ less
  next more =>
    have above : m.toNat ≤ n.toNat := Nat.le_of_not_le fun less => more (UInt16.le_iff_toNat_le.2 less)
    exact (Nat.sub_eq_zero_of_le above).symm

/-- The vertex stage gets what lights the fragment stage leaves, up to its own limit. -/
theorem LightSplit.toNat_vertex (vertex fragment lights : UInt16) :
    (ofLimits vertex fragment lights).vertex.toNat =
      min vertex.toNat (lights.toNat - fragment.toNat) := by
  rw [ofLimits, toNat_min, toNat_subSaturating]

namespace Permutation

variable {p : Permutation} {stage : Stage} {light n : Nat}

/-- The light behind the last one that a stage handles. -/
def lightsEnd (p : Permutation) : Stage → Nat
  | .vertex => p.lights.toNat
  | .fragment => p.fragmentLights.toNat

/-- The loop of the stage runs over the light. -/
def Handles (p : Permutation) (stage : Stage) (light : Nat) : Prop :=
  (LightRange.forStage p stage).first ≤ light ∧ light < p.lightsEnd stage

/-- A loop with a fixed bound ends where the lights of the stage do. -/
theorem eq_lightsEnd_of_bound (h : (LightRange.forStage p stage).bound = .count n) :
    n = p.lightsEnd stage := by
  cases stage with
  | vertex => cases h
  | fragment =>
    simp only [LightRange.forStage] at h
    split at h
    · cases h
    · exact (LightBound.count.inj h).symm

theorem handles_unique : ¬ (p.Handles .vertex light ∧ p.Handles .fragment light) := by
  rintro ⟨⟨above, -⟩, -, below⟩
  exact absurd below (Nat.not_lt.2 above)

/-- Every light of a program is handled by a stage, and no other light is. -/
theorem exists_handles : light < p.lights.toNat ↔ ∃ stage, p.Handles stage light := by
  have among := p.fragmentLights_le_lights
  constructor
  · intro below
    by_cases first : light < p.fragmentLights.toNat
    · exact ⟨.fragment, Nat.zero_le _, first⟩
    · exact ⟨.vertex, Nat.not_lt.1 first, below⟩
  · rintro ⟨stage, -, below⟩
    cases stage with
    | vertex => exact below
    | fragment => exact Nat.lt_of_lt_of_le below among

/-- The vertex stage gets the lights that the fragment stage has no budget for. -/
theorem resolve_vertexLights (settings : Settings) (material : Material) (target : Target) :
    (resolve settings material target).vertexLights.toNat =
      min settings.vertexLights.toNat (target.lights.toNat - settings.fragmentLights.toNat) := by
  have bound := target.lights.toNat_lt
  have split := LightSplit.toNat_vertex settings.vertexLights settings.fragmentLights
    (min target.lights (addSaturating settings.vertexLights settings.fragmentLights))
  rw [toNat_min, toNat_addSaturating] at split
  refine Eq.trans split ?_
  omega

/-- The stages together get as many lights as both budgets and the target allow. -/
theorem resolve_lights_add (settings : Settings) (material : Material) (target : Target) :
    (resolve settings material target).vertexLights.toNat +
        (resolve settings material target).fragmentLights.toNat =
      min target.lights.toNat (settings.vertexLights.toNat + settings.fragmentLights.toNat) := by
  have vertex := resolve_vertexLights settings material target
  have fragment := resolve_fragmentLights settings material target
  omega

/-- There are lights for the vertex stage only where the budget of the fragment stage is used up. -/
theorem resolve_vertexLights_eq_zero_or (settings : Settings) (material : Material) (target : Target) :
    (resolve settings material target).vertexLights = 0 ∨
      (resolve settings material target).fragmentLights = settings.fragmentLights := by
  have vertex := resolve_vertexLights settings material target
  have fragment := resolve_fragmentLights settings material target
  by_cases enough : target.lights.toNat ≤ settings.fragmentLights.toNat
  · left
    apply UInt16.toNat_inj.1
    have zero : (0 : UInt16).toNat = 0 := rfl
    omega
  · right
    apply UInt16.toNat_inj.1
    omega

/--
The fragment stage gets as many lights as its budget and the target allow, and the vertex stage gets
lights within its own budget, once that of the fragment stage is used up. The stages together have
as many as both budgets and the target allow, which the count of the program says without saturating.
Their loops share these lights out: every light of the program is in exactly one of them, and no
other light is in either.
-/
theorem resolve_splits_lights (settings : Settings) (material : Material) (target : Target) :
    let p := resolve settings material target
    p.fragmentLights.toNat = min settings.fragmentLights.toNat target.lights.toNat ∧
      p.vertexLights.toNat + p.fragmentLights.toNat =
        min target.lights.toNat (settings.vertexLights.toNat + settings.fragmentLights.toNat) ∧
      p.lights.toNat = p.vertexLights.toNat + p.fragmentLights.toNat ∧
      p.vertexLights ≤ settings.vertexLights ∧
      (p.vertexLights = 0 ∨ p.fragmentLights = settings.fragmentLights) ∧
      (∀ stage n, (LightRange.forStage p stage).bound = .count n → n = p.lightsEnd stage) ∧
      (∀ light, ¬ (p.Handles .vertex light ∧ p.Handles .fragment light)) ∧
      ∀ light, light < p.lights.toNat ↔ ∃ stage, p.Handles stage light := by
  intro p
  have fragment : p.fragmentLights.toNat = _ := resolve_fragmentLights settings material target
  have sum : p.vertexLights.toNat + p.fragmentLights.toNat = _ :=
    resolve_lights_add settings material target
  have within : p.vertexLights ≤ settings.vertexLights := by
    have vertex : p.vertexLights.toNat = _ := resolve_vertexLights settings material target
    rw [UInt16.le_iff_toNat_le]
    omega
  have unsaturated : p.lights.toNat = p.vertexLights.toNat + p.fragmentLights.toNat := by
    have bound := target.lights.toNat_lt
    rw [lights, toNat_addSaturating]
    omega
  exact ⟨fragment, sum, unsaturated, within, resolve_vertexLights_eq_zero_or settings material target,
    fun _ _ => eq_lightsEnd_of_bound, fun _ => handles_unique, fun _ => exists_handles⟩

/-- Budgets whose sum is no word are still used up one after the other. -/
example : LightSplit.ofLimits 40000 30000 (min 65535 (addSaturating 40000 30000)) = ⟨35535, 30000⟩ := by
  decide

end Permutation

end ShaderComposition
