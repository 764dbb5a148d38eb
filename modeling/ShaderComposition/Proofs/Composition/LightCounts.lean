import ShaderComposition.Permutation

/-!
# How many lights

Counts of lights are words that saturate, so they are compared as natural numbers. The fragment stage
has no more lights than the whole program, and an array that is counted in lights has an element for
each of them up to the maximum of the size class (`le_length_lights`).
-/

namespace ShaderComposition

theorem toNat_min (m n : UInt16) : (min m n).toNat = min m.toNat n.toNat := by
  show (if m ≤ n then m else n).toNat = _
  split
  next less => exact (Nat.min_eq_left (UInt16.le_iff_toNat_le.1 less)).symm
  next more =>
    refine (Nat.min_eq_right (Nat.le_of_not_le fun less => more ?_)).symm
    exact UInt16.le_iff_toNat_le.2 less

theorem toNat_addSaturating (m n : UInt16) :
    (addSaturating m n).toNat = min (m.toNat + n.toNat) 65535 := by
  unfold addSaturating
  rw [UInt16.toNat_ofNat']
  omega

namespace Permutation

variable {p : Permutation} {n : Nat}

theorem fragmentLighting_iff : p.fragmentLighting = true ↔
    p.purpose = .color ∧ 0 < p.fragmentLights ∧ p.has .lighting = true := by
  simp [fragmentLighting, and_assoc]

theorem vertexLighting_iff : p.vertexLighting = true ↔
    p.purpose = .color ∧ 0 < p.vertexLights ∧ p.has .lighting = true := by
  simp [vertexLighting, and_assoc]

theorem receivesShadows_iff :
    p.receivesShadows = true ↔ 0 < p.shadowMaps ∧ p.fragmentLighting = true := by
  simp [receivesShadows]

theorem fragmentLights_le_lights (p : Permutation) : p.fragmentLights.toNat ≤ p.lights.toNat := by
  have bound := p.fragmentLights.toNat_lt
  rw [lights, toNat_addSaturating]
  omega

/-- The lights of the fragment stage all have elements just where they do not pass the maximum. -/
theorem fragmentLights_le_length_iff (lit : p.fragmentLighting = true) :
    p.fragmentLights.toNat ≤ p.arrayLengths.length .lights ↔
      p.fragmentLights.toNat ≤ SizeClass.lights.maximum := by
  have some : 0 < p.fragmentLights.toNat := UInt16.lt_iff_toNat_lt.1 (fragmentLighting_iff.1 lit).2.1
  have among := p.fragmentLights_le_lights
  simp only [arrayLengths, ArrayLengths.length, SizeClass.maximum]
  omega

/-- The fragment stage of a target gets as many lights as settings and target allow. -/
theorem resolve_fragmentLights (settings : Settings) (material : Material) (target : Target) :
    (resolve settings material target).fragmentLights.toNat =
      min settings.fragmentLights.toNat target.lights.toNat := by
  have bound := settings.fragmentLights.toNat_lt
  show (min settings.fragmentLights (min target.lights
    (addSaturating settings.vertexLights settings.fragmentLights))).toNat = _
  rw [toNat_min, toNat_min, toNat_addSaturating]
  omega

end Permutation

end ShaderComposition
