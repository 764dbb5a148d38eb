import ShaderComposition.Proofs.Permutation.Resolution
import ShaderComposition.Proofs.Program.Dependence

/-!
# Where there are no shadows

A material that receives no shadows, or a scene that casts none, leaves nothing for the shadow settings
to act on. Resolving unbinds the roles that are of use only under shadows and counts no shadow maps, so
inputs that differ in shadow settings alone are resolved to one permutation
(`AgreeButShadows.permutation_eq`). The scale of shadows is not part of it, but no part of an unshadowed
stage takes it into account (`Plan.stage_unshadowed`).
-/

namespace ShaderComposition

namespace Plan

variable {p : Permutation} {scale scale' : Float32} {select : Selection} {stage : Stage}

/-- Only a shadowed block takes the scale of shadows into account. -/
theorem lighting_unshadowed (p : Permutation) (scale scale' : Float32) (select : Selection)
    (stage : Stage) :
    lighting p scale' select stage false = lighting p scale select stage false := by
  unfold lighting
  split <;> rfl

theorem colorLighting_unshadowed (dark : p.receivesShadows = false) :
    colorLighting p scale' select = colorLighting p scale select := by
  unfold colorLighting
  have unmapped : (!([] : List Part).isEmpty) = false := rfl
  simp only [dark, Bool.false_eq_true, if_false, unmapped]
  rw [lighting_unshadowed p scale]

theorem stage_unshadowed (dark : p.receivesShadows = false) :
    Plan.stage p scale' select stage = Plan.stage p scale select stage := by
  have surfaces : surface p scale' select = surface p scale select := by
    unfold surface
    rw [colorLighting_unshadowed dark]
  cases stage with
  | vertex =>
    unfold Plan.stage vertex
    rw [lighting_unshadowed p scale]
  | fragment =>
    unfold Plan.stage fragment
    rw [surfaces]

end Plan

namespace Inputs

variable {i j : Inputs} {role : Role}

/-- The material receives no shadows, or nothing casts any. -/
def Unshadowed (i : Inputs) : Prop :=
  i.material.receivesShadows = false ∨ i.target.shadowMaps = 0

/--
The second inputs differ from the first in nothing but shadow settings: the scale of shadows, whether
they are received, how many shadow maps there are, and what the shadow roles are bound to.
-/
structure AgreeButShadows (i j : Inputs) : Prop where
  settings : ∃ shadowScale defaultBindings,
    j.settings = { i.settings with shadowScale, defaultBindings }
  material : ∃ receivesShadows bindings, j.material = { i.material with receivesShadows, bindings }
  target : ∃ shadowMaps, j.target = { i.target with shadowMaps }
  defaults : i.settings.defaultBindings.AgreeExcept Permutation.shadowRoles
    j.settings.defaultBindings
  bindings : i.material.bindings.AgreeExcept Permutation.shadowRoles j.material.bindings

theorem Unshadowed.isShadowed_eq (off : i.Unshadowed) :
    Permutation.isShadowed i.material i.target = false :=
  Permutation.isShadowed_eq_false_iff.2 off

theorem Unshadowed.unbound (off : i.Unshadowed) (shadow : role ∈ Permutation.shadowRoles) :
    i.permutation.bindings.name? role = none := by
  show (Permutation.resolveBindings ..).name? role = none
  rw [Permutation.name?_resolveBindings, if_pos ⟨off.isShadowed_eq, shadow⟩]

theorem Unshadowed.receivesShadows_eq (off : i.Unshadowed) :
    i.permutation.receivesShadows = false := by
  have maps : i.permutation.shadowMaps = 0 := by
    show (if Permutation.isShadowed i.material i.target then i.target.shadowMaps else 0) = 0
    rw [off.isShadowed_eq]
    rfl
  unfold Permutation.receivesShadows
  rw [maps]
  rfl

theorem AgreeButShadows.bindings_eq (agree : i.AgreeButShadows j) (off : i.Unshadowed)
    (off' : j.Unshadowed) : j.permutation.bindings = i.permutation.bindings := by
  obtain ⟨_, _, material⟩ := agree.material
  refine Bindings.ext (funext fun role => ?_)
  by_cases shadow : role ∈ Permutation.shadowRoles
  · rw [off.unbound shadow, off'.unbound shadow]
  · exact Permutation.name?_resolveBindings_congr shadow (agree.bindings role shadow)
      (fun _ => by rw [material]) (by rw [material]) (agree.defaults role shadow)

/-- Without shadows, shadow settings are resolved to nothing. -/
theorem AgreeButShadows.permutation_eq (agree : i.AgreeButShadows j) (off : i.Unshadowed)
    (off' : j.Unshadowed) : j.permutation = i.permutation := by
  have bound : Permutation.resolveBindings j.settings j.material j.target =
      Permutation.resolveBindings i.settings i.material i.target := agree.bindings_eq off off'
  obtain ⟨_, _, settings⟩ := agree.settings
  obtain ⟨_, _, material⟩ := agree.material
  obtain ⟨_, target⟩ := agree.target
  unfold permutation Permutation.resolve
  rw [bound, off.isShadowed_eq, off'.isShadowed_eq]
  simp only [settings, material, target, Bool.false_eq_true, if_false]

end Inputs

namespace Library

variable {library : Library} {p : Permutation} {role : Role} {stage : Stage} {s : Snippet}
  {i j : Inputs}

theorem role_of_select (h : library.select p role stage = some s) : s.role = role := by
  rw [select_eq_bind] at h
  obtain ⟨name, -, found⟩ := Option.bind_eq_some_iff.1 h
  exact (mem_of_lookup found).2.1

/-- A snippet that is written has a role that is bound. -/
theorem bound_of_written {settings : Settings} {piece : Piece}
    (member : piece ∈ library.pieces settings p stage) (written : piece.snippet? = some s) :
    p.bindings.name? s.role ≠ none := by
  have either : piece ∈ library.pieces settings p .vertex ++ library.pieces settings p .fragment := by
    cases stage with
    | vertex => exact List.mem_append_left _ member
    | fragment => exact List.mem_append_right _ member
  have listed := List.mem_filterMap.2 ⟨piece, either, written⟩
  rw [snippets_of_pieces] at listed
  obtain ⟨job, -, selected⟩ := List.mem_filterMap.1 listed
  rw [role_of_select selected]
  intro unbound
  rw [select_eq_bind, unbound] at selected
  cases selected

/--
Where there are no shadows, no shadow setting has any influence: inputs that differ in nothing else make
the same program, or are refused alike, and no snippet of a shadow role is written.
-/
theorem build_unshadowed (library : Library) (agree : i.AgreeButShadows j) (off : i.Unshadowed)
    (off' : j.Unshadowed) :
    library.build j.settings j.permutation = library.build i.settings i.permutation ∧
      ∀ inputs ∈ [i, j], ∀ stage,
        ∀ piece ∈ library.pieces inputs.settings inputs.permutation stage,
          ∀ s, piece.snippet? = some s → s.role ∉ Permutation.shadowRoles := by
  refine ⟨?_, fun inputs either stage piece member s written shadow => ?_⟩
  · rw [agree.permutation_eq off off']
    have dark : (library.derived i.permutation).receivesShadows = false :=
      (agrees_derived library i.permutation).lighting.2.2.trans off.receivesShadows_eq
    exact build_congr rfl fun stage => Plan.stage_unshadowed dark
  · have unshadowed : inputs.Unshadowed := by
      rcases List.mem_cons.1 either with rfl | last
      · exact off
      · rwa [List.mem_singleton.1 last]
    exact bound_of_written member written (unshadowed.unbound shadow)

/-- The lit surface in a fog that asks for the derivatives of the shadow coordinates. -/
def foggySurface : Library :=
  ⟨litSurface.snippets ++ [
    exchange .fog "default" [.shadowUvDdxDdy] [.fog] [],
    exchange .shadowUvDdxDdy "default" [.shadowUvs] [.shadowUvDdxDdy] []]⟩

/-- A lit surface that receives no shadows, among things that cast some. -/
def aloof : Inputs where
  settings := twoAndTwo
  material := { lighting := some "phong", receivesShadows := false }
  target := { dialect := .glsl330, purpose := .color, lights := 4, shadowMaps := 3, fog := true }

/-- The same surface with faint shadows of another kind to receive, and nothing that casts any. -/
def uncast : Inputs where
  settings := { twoAndTwo with
    shadowScale := 0.25
    defaultBindings := twoAndTwo.defaultBindings.unbind .shadowUv }
  material := { lighting := some "phong", bindings := .bind .empty .shadowMapping "soft" }
  target := { dialect := .glsl330, purpose := .color, lights := 4, fog := true }

/-- The fog asks for a shadow role, and yet the shadow settings make no difference. -/
theorem foggySurface_unshadowed :
    aloof.AgreeButShadows uncast ∧ aloof.Unshadowed ∧ uncast.Unshadowed ∧
      (foggySurface.derived aloof.permutation).has .shadowUvDdxDdy = true ∧
      ∃ e, foggySurface.build aloof.settings aloof.permutation = .ok e ∧
        foggySurface.build uncast.settings uncast.permutation = .ok e ∧
        ∀ stage, ∀ piece ∈ foggySurface.pieces uncast.settings uncast.permutation stage,
          ∀ s, piece.snippet? = some s → s.role ∉ Permutation.shadowRoles := by
  have agree : aloof.AgreeButShadows uncast :=
    ⟨⟨_, _, rfl⟩, ⟨_, _, rfl⟩, ⟨_, rfl⟩, Bindings.agreeExcept_unbind (by decide) _,
      Bindings.agreeExcept_bind (by decide) _ _⟩
  have off : aloof.Unshadowed := .inl rfl
  have off' : uncast.Unshadowed := .inr rfl
  obtain ⟨e, built⟩ : ∃ e, foggySurface.build aloof.settings aloof.permutation = .ok e :=
    exists_of_isOk (by decide +kernel)
  obtain ⟨same, unwritten⟩ := build_unshadowed foggySurface agree off off'
  refine ⟨agree, off, off', by decide +kernel, e, built, same.trans built, ?_⟩
  exact unwritten uncast (List.mem_cons_of_mem _ List.mem_cons_self)

end Library

end ShaderComposition
