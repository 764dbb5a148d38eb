import ShaderComposition.Permutation

/-!
# What permutations are resolved to

Settings, a material and a target are resolved to one permutation. `name?_resolveBindings` says which
name a role is bound to in it, and `has_resolve` which features it has. The sources of a binding are
ordered, and the first one that has a name for a role binds it (`resolve_binds_by_precedence`).
-/

namespace ShaderComposition

namespace Bindings

theorem name?_bindAll (b : Bindings) (roles : List Role) (name : String) (r : Role) :
    (b.bindAll roles name).name? r = if r ∈ roles then some name else b.name? r := by
  induction roles generalizing b with
  | nil => rfl
  | cons role roles ih =>
    have step : b.bindAll (role :: roles) name = (b.bind role name).bindAll roles name := rfl
    rw [step, ih, name?_bind]
    by_cases rest : r ∈ roles
    · rw [if_pos rest, if_pos (List.mem_cons_of_mem _ rest)]
    · rw [if_neg rest]
      simp only [List.mem_cons, rest, or_false]

theorem name?_unbindAll (b : Bindings) (roles : List Role) (r : Role) :
    (b.unbindAll roles).name? r = if r ∈ roles then none else b.name? r := by
  induction roles generalizing b with
  | nil => rfl
  | cons role roles ih =>
    have step : b.unbindAll (role :: roles) = (b.unbind role).unbindAll roles := rfl
    rw [step, ih, name?_unbind]
    by_cases rest : r ∈ roles
    · rw [if_pos rest, if_pos (List.mem_cons_of_mem _ rest)]
    · rw [if_neg rest]
      simp only [List.mem_cons, rest, or_false]

/-- Only the given roles are bound, all to one name if there is one. -/
def only (roles : List Role) (name? : Option String) : Bindings :=
  ⟨fun role => if role ∈ roles then name? else none⟩

@[simp] theorem name?_only (roles : List Role) (name? : Option String) (role : Role) :
    (only roles name?).name? role = if role ∈ roles then name? else none := rfl

/-- Both bind every role to the same name, apart from the given ones. -/
def AgreeExcept (roles : List Role) (b c : Bindings) : Prop :=
  ∀ role ∉ roles, c.name? role = b.name? role

variable {role : Role} {roles : List Role}

theorem agreeExcept_bind (among : role ∈ roles) (b : Bindings) (name : String) :
    b.AgreeExcept roles (b.bind role name) := by
  intro r other
  have apart : r ≠ role := fun same => other (same ▸ among)
  rw [name?_bind, if_neg apart]

theorem agreeExcept_unbind (among : role ∈ roles) (b : Bindings) :
    b.AgreeExcept roles (b.unbind role) := by
  intro r other
  have apart : r ≠ role := fun same => other (same ▸ among)
  rw [name?_unbind, if_neg apart]

end Bindings

namespace Permutation

variable {settings : Settings} {material : Material} {target : Target} {role : Role} {g : Feature}

theorem isShadowed_eq_false_iff : isShadowed material target = false ↔
    material.receivesShadows = false ∨ target.shadowMaps = 0 := by
  have casts : 0 < target.shadowMaps ↔ target.shadowMaps ≠ 0 := by
    rw [UInt16.lt_iff_toNat_lt, ne_eq, ← UInt16.toNat_inj]
    exact Nat.pos_iff_ne_zero
  rw [isShadowed, Bool.and_eq_false_iff, decide_eq_false_iff_not, casts,
    Decidable.not_not]

/--
A role of use only under shadows is unbound where there are none. Otherwise the bindings of the material
come first, what it says about light and transformation second, and the defaults last.
-/
theorem name?_resolveBindings (settings : Settings) (material : Material) (target : Target)
    (role : Role) : (resolveBindings settings material target).name? role =
      if isShadowed material target = false ∧ role ∈ shadowRoles then none
      else (material.bindings.name? role).or
        ((if role = .light then material.lighting else none).or
          ((if role ∈ worldTransformations then material.worldTransformation else none).or
            (settings.defaultBindings.name? role))) := by
  have first (name : String) (member : Prop) [Decidable member] (other : Option String) :
      (if member then some name else none).or other = if member then some name else other := by
    split <;> rfl
  cases shadowed : isShadowed material target <;> cases lit : material.lighting <;>
    cases world : material.worldTransformation <;>
    simp only [resolveBindings, shadowed, lit, world, Bindings.name?_override, Bindings.name?_bind,
      Bindings.name?_bindAll, Bindings.name?_unbindAll, first, ite_self, Option.none_or,
      Bool.false_eq_true, Bool.true_eq_false, if_true, if_false, true_and, false_and]

/-- Outside the shadow roles, bindings are resolved alike where each of their sources is alike. -/
theorem name?_resolveBindings_congr {settings' : Settings} {material' : Material} {target' : Target}
    (outside : role ∉ shadowRoles) (own : material'.bindings.name? role = material.bindings.name? role)
    (light : role = .light → material'.lighting = material.lighting)
    (world : material'.worldTransformation = material.worldTransformation)
    (default : settings'.defaultBindings.name? role = settings.defaultBindings.name? role) :
    (resolveBindings settings' material' target').name? role =
      (resolveBindings settings material target).name? role := by
  have lit : (if role = .light then material'.lighting else none) =
      if role = .light then material.lighting else none := by
    by_cases same : role = .light
    · rw [light same]
    · rw [if_neg same, if_neg same]
  have useful (unshadowed : Prop) : ¬ (unshadowed ∧ role ∈ shadowRoles) := fun h => outside h.2
  rw [name?_resolveBindings, name?_resolveBindings, if_neg (useful _), if_neg (useful _), own, lit,
    world, default]

theorem has_resolve (settings : Settings) (material : Material) (target : Target) (g : Feature) :
    (resolve settings material target).has g = match g with
      | .transparent | .alphaTest => material.transparent
      | .alphaWrite => material.transparent && target.purpose = .color
      | .fog => target.fog
      | .lighting => ((resolveBindings settings material target).name? .light).isSome
      | .dynamicLightsCount => settings.dynamicLights
      | .viewDirection | .shadowUvDdxDdy | .tbnMatrix | .viewPosition | .normal | .tangent =>
        false := by
  simp only [has, resolve, Features.has_set, Features.has_none]
  cases g <;> simp

/-- What binds roles to names, the source that counts most first. -/
def bindingSources (settings : Settings) (material : Material) : List Bindings := [
  material.bindings,
  .only [.light] material.lighting,
  .only worldTransformations material.worldTransformation,
  settings.defaultBindings]

/-- The first source that binds a role is the one that counts. -/
theorem findSome?_bindingSources (settings : Settings) (material : Material) (role : Role) :
    (bindingSources settings material).findSome? (·.name? role) =
      (material.bindings.name? role).or
        ((if role = .light then material.lighting else none).or
          ((if role ∈ worldTransformations then material.worldTransformation else none).or
            (settings.defaultBindings.name? role))) := by
  have step (source : Bindings) (rest : List Bindings) :
      (source :: rest).findSome? (·.name? role) =
        (source.name? role).or (rest.findSome? (·.name? role)) := by
    rw [List.findSome?_cons]
    cases source.name? role <;> rfl
  simp only [bindingSources, step, List.findSome?_nil, Option.or_none, Bindings.name?_only,
    List.mem_singleton]

/--
A role of use only under shadows is bound to nothing where the material receives none or nothing casts
any. Every other role is bound to the name in the first source that has one for it, and to nothing where
no source has. The permutation is lit just where the light is bound.
-/
theorem resolve_binds_by_precedence (settings : Settings) (material : Material) (target : Target) :
    let p := resolve settings material target
    (∀ role, p.bindings.name? role =
        if role ∈ shadowRoles ∧ (material.receivesShadows = false ∨ target.shadowMaps = 0) then none
        else (bindingSources settings material).findSome? (·.name? role)) ∧
      (p.has .lighting = true ↔ ∃ name, p.bindings.name? .light = some name) := by
  intro p
  constructor
  · intro role
    have bound : p.bindings.name? role = _ := name?_resolveBindings settings material target role
    have useless : isShadowed material target = false ∧ role ∈ shadowRoles ↔
        role ∈ shadowRoles ∧ (material.receivesShadows = false ∨ target.shadowMaps = 0) := by
      rw [isShadowed_eq_false_iff, and_comm]
    rw [bound, findSome?_bindingSources]
    exact ite_congr (propext useless) (fun _ => rfl) fun _ => rfl
  · have lit : p.has .lighting = _ := has_resolve settings material target .lighting
    rw [lit, Option.isSome_iff_exists]
    rfl

/-- A name of its own beats the light of a material, but does not bring back a useless shadow role. -/
example :
    let own := (Bindings.empty.bind .light "own").bind .shadowUv "own"
    let material : Material := { bindings := own, lighting := some "phong" }
    let p := resolve {} material { dialect := .glsl330, purpose := .color }
    p.bindings.name? .light = some "own" ∧ p.bindings.name? .shadowUv = none ∧
      p.bindings.name? .uv = some "default" := by
  decide

end Permutation

/-- What a program is built from, besides the library. -/
structure Inputs where
  settings : Settings
  material : Material
  target : Target

/-- The permutation that inputs are resolved to. -/
def Inputs.permutation (i : Inputs) : Permutation :=
  .resolve i.settings i.material i.target

end ShaderComposition
