import ShaderComposition.Proofs.Permutation.Resolution
import ShaderComposition.Proofs.Program.Dependence

/-!
# Passes without color

The depth pass and the shadow pass neither light a surface nor put it into fog, so settings that only
the color pass needs must not change them. What such a pass is made of is written out for the schedule
and for both stages (`Permutation.schedule_colorless`, `Plan.vertex_colorless`,
`Plan.fragment_colorless`): no color role is among it. Deriving features keeps two permutations alike
(`AgreeWithoutColor.deriveAll`), since each feature is derived from what the schedule selects.
-/

namespace ShaderComposition

namespace Permutation

variable {p q : Permutation} {select select' : Selection} {role : Role} {stage : Stage}

/-- The roles that only the color pass needs. -/
def colorRoles : List Role :=
  [.light, .fog, .shadowUv, .shadowMapping, .shadowUvDdxDdy, .normalDepthMapping, .specularMapping]

/-- The features that are asked for and that only the color pass takes into account. -/
def colorFeatures : List Feature :=
  [.fog, .lighting, .dynamicLightsCount]

/-! ## One pass -/

theorem vertexLighting_colorless (colorless : p.purpose ≠ .color) : p.vertexLighting = false :=
  Bool.eq_false_iff.2 fun lit => colorless (vertexLighting_iff.1 lit).1

theorem fragmentLighting_colorless (colorless : p.purpose ≠ .color) : p.fragmentLighting = false :=
  Bool.eq_false_iff.2 fun lit => colorless (fragmentLighting_iff.1 lit).1

theorem receivesShadows_colorless (colorless : p.purpose ≠ .color) : p.receivesShadows = false :=
  Plan.no_shadows_of_dark (fragmentLighting_colorless colorless)

/-- Without color, neither light nor fog nor shadows are scheduled, whatever features there are. -/
theorem schedule_colorless (colorless : p.purpose ≠ .color) : p.schedule =
    [(p.worldRole, Stage.vertex)] ++
      (if p.has .viewPosition then [(Role.viewTransformation, Stage.vertex)] else []) ++
      [(Role.uv, Stage.vertex)] ++
      (if p.has .viewDirection then [(Role.viewDirection, Stage.fragment)] else []) ++
      (if p.has .tbnMatrix then [(Role.tbnMatrix, Stage.fragment)] else []) ++
      (if p.has .transparent then [(Role.diffuseMapping, Stage.fragment)] else []) ++
      (if p.purpose = .shadow then [(Role.shadowMap, Stage.fragment)] else []) := by
  unfold schedule
  simp only [vertexLighting_colorless colorless, fragmentLighting_colorless colorless,
    receivesShadows_colorless colorless, colorless, decide_false, decide_eq_true_eq,
    Bool.false_and, Bool.false_or, Bool.false_eq_true, if_false, List.append_nil]

theorem worldRole_colorless (p : Permutation) : p.worldRole ∉ colorRoles := by
  unfold worldRole
  split
  · decide
  · split <;> decide

theorem role_colorless (colorless : p.purpose ≠ .color) (scheduled : (role, stage) ∈ p.schedule) :
    role ∉ colorRoles := by
  have member {needed : Prop} [Decidable needed] {r : Role} {s : Stage} :
      (role, stage) ∈ (if needed then [(r, s)] else []) ↔ needed ∧ role = r ∧ stage = s := by
    split <;> simp [*]
  simp only [schedule_colorless colorless, List.mem_append, List.mem_singleton, member,
    Prod.mk.injEq, or_assoc] at scheduled
  rcases scheduled with ⟨rfl, -⟩ | ⟨-, rfl, -⟩ | ⟨rfl, -⟩ | ⟨-, rfl, -⟩ | ⟨-, rfl, -⟩ | ⟨-, rfl, -⟩ |
    ⟨-, rfl, -⟩
  · exact p.worldRole_colorless
  all_goals decide

theorem forceNormal_colorless (colorless : p.purpose ≠ .color) : p.forceNormal = p := by
  rw [forceNormal, vertexLighting_colorless colorless, if_neg Bool.false_ne_true]

/-! ## Two passes -/

/-- Permutations of a pass without color that differ in nothing that such a pass needs. -/
structure AgreeWithoutColor (p q : Permutation) : Prop where
  colorless : p.purpose ≠ .color
  rest : ∃ bindings features, q = { p with bindings, features }
  has : ∀ g ∉ colorFeatures, q.has g = p.has g

/-- Outside the color roles, the same snippets are selected. -/
def SelectWithoutColor (select select' : Selection) : Prop :=
  ∀ role ∉ colorRoles, ∀ stage, select' role stage = select role stage

namespace AgreeWithoutColor

theorem purpose_eq (agree : p.AgreeWithoutColor q) : q.purpose = p.purpose := by
  obtain ⟨_, _, rfl⟩ := agree.rest
  rfl

theorem dialect_eq (agree : p.AgreeWithoutColor q) : q.dialect = p.dialect := by
  obtain ⟨_, _, rfl⟩ := agree.rest
  rfl

theorem outline_eq (agree : p.AgreeWithoutColor q) : q.outline = p.outline := by
  obtain ⟨_, _, rfl⟩ := agree.rest
  rfl

theorem colorless_right (agree : p.AgreeWithoutColor q) : q.purpose ≠ .color :=
  agree.purpose_eq ▸ agree.colorless

theorem worldRole_eq (agree : p.AgreeWithoutColor q) : q.worldRole = p.worldRole := by
  unfold worldRole
  rw [agree.has .tangent (by decide), agree.has .normal (by decide)]

theorem schedule_eq (agree : p.AgreeWithoutColor q) : q.schedule = p.schedule := by
  rw [schedule_colorless agree.colorless_right, schedule_colorless agree.colorless, agree.worldRole_eq,
    agree.purpose_eq, agree.has .viewPosition (by decide), agree.has .viewDirection (by decide),
    agree.has .tbnMatrix (by decide), agree.has .transparent (by decide)]

theorem reads_eq (agree : p.AgreeWithoutColor q) (alike : SelectWithoutColor select select')
    (value : SharedValue) : q.reads select' value = p.reads select value := by
  rw [Bool.eq_iff_iff, reads, reads, agree.schedule_eq, List.any_eq_true, List.any_eq_true]
  refine exists_congr fun entry => and_congr_right fun scheduled => ?_
  obtain ⟨role, stage⟩ := entry
  show (select' role stage).any _ = true ↔ (select role stage).any _ = true
  rw [alike role (role_colorless agree.colorless scheduled)]

theorem derive (agree : p.AgreeWithoutColor q) (alike : SelectWithoutColor select select')
    (f : Feature) (value : SharedValue) :
    (p.derive select f value).AgreeWithoutColor (q.derive select' f value) := by
  refine ⟨?_, ?_, fun g other => ?_⟩
  · have colorless := agree.colorless
    rwa [Permutation.derive]
  · obtain ⟨_, _, rfl⟩ := agree.rest
    exact ⟨_, _, rfl⟩
  · rw [has_derive, has_derive, agree.reads_eq alike, agree.has g other]

/-- What is derived next depends on what was derived before, which is alike. -/
theorem deriveAll (agree : p.AgreeWithoutColor q) (alike : SelectWithoutColor select select')
    (ds : List (Feature × SharedValue)) :
    (p.deriveAll select ds).AgreeWithoutColor (q.deriveAll select' ds) := by
  induction ds generalizing p q with
  | nil => exact agree
  | cons d ds ih =>
    obtain ⟨f, value⟩ := d
    rw [deriveAll_cons, deriveAll_cons]
    exact ih (agree.derive alike f value)

theorem plain (agree : p.AgreeWithoutColor q) : p.plain.AgreeWithoutColor q.plain := by
  refine ⟨agree.colorless, ?_, fun g other => ?_⟩
  · obtain ⟨_, _, rfl⟩ := agree.rest
    exact ⟨_, _, rfl⟩
  · rw [has_plain, has_plain, agree.has g other]

theorem deriveFeatures (agree : p.AgreeWithoutColor q) (alike : SelectWithoutColor select select') :
    (p.deriveFeatures select).AgreeWithoutColor (q.deriveFeatures select') := by
  have read := agree.plain.deriveAll alike derivations
  rw [deriveFeatures_eq, deriveFeatures_eq, forceNormal_colorless read.colorless,
    forceNormal_colorless read.colorless_right]
  exact read

end AgreeWithoutColor

end Permutation

namespace Plan

open Permutation (AgreeWithoutColor SelectWithoutColor colorRoles)

variable {p q : Permutation} {scale scale' : Float32} {select select' : Selection}

/-- Without color, vertices are transformed and textures are mapped. -/
theorem vertex_colorless (colorless : p.purpose ≠ .color) : vertex p scale select =
    job select p.worldRole .vertex ++ [projection] ++
      when (p.has .viewPosition) (job select .viewTransformation .vertex) ++
      job select .uv .vertex := by
  unfold vertex
  simp only [Permutation.vertexLighting_colorless colorless,
    Permutation.receivesShadows_colorless colorless, colorless, decide_false, Bool.false_and,
    when, Bool.false_eq_true, if_false, List.append_nil]

/-- Without color, the fragment stage tests transparent surfaces and writes depth or the shadow map. -/
theorem fragment_colorless (colorless : p.purpose ≠ .color) : fragment p scale select =
    when (p.has .viewDirection) (job select .viewDirection .fragment) ++
      when (p.has .tbnMatrix) (job select .tbnMatrix .fragment) ++
      when (p.has .transparent) (job select .diffuseMapping .fragment) ++
      when (p.has .alphaTest) [alphaTest] ++
      (if p.purpose = .shadow then job select .shadowMap .fragment ++ [shadowOutput p]
        else [depthOutput p]) ++
      [alphaOutput p] := by
  have kind : surface p scale select =
      if p.purpose = .shadow then job select .shadowMap .fragment ++ [shadowOutput p]
      else [depthOutput p] := by
    unfold surface
    cases purpose : p.purpose with
    | color => exact absurd purpose colorless
    | depth => rfl
    | shadow => rfl
  unfold fragment
  simp only [kind, colorless, decide_false, Bool.false_and, Bool.false_or, when, Bool.false_eq_true,
    if_false, List.nil_append, List.append_nil]

theorem job_eq (alike : SelectWithoutColor select select') (role : Role) (other : role ∉ colorRoles)
    (stage : Stage) : job select' role stage = job select role stage := by
  rw [job, job, alike role other]

/-- The parts of a pass without color do not depend on what is selected for color. -/
theorem stage_eq (agree : p.AgreeWithoutColor q) (alike : SelectWithoutColor select select')
    (stage : Stage) : Plan.stage q scale' select' stage = Plan.stage p scale select stage := by
  cases stage with
  | vertex =>
    have world := job_eq alike p.worldRole p.worldRole_colorless .vertex
    have view := job_eq alike .viewTransformation (by decide) .vertex
    have uv := job_eq alike .uv (by decide) .vertex
    show vertex q scale' select' = vertex p scale select
    rw [vertex_colorless agree.colorless_right, vertex_colorless agree.colorless, agree.worldRole_eq,
      agree.has .viewPosition (by decide), world, view, uv]
  | fragment =>
    have direction := job_eq alike .viewDirection (by decide) .fragment
    have frame := job_eq alike .tbnMatrix (by decide) .fragment
    have diffuse := job_eq alike .diffuseMapping (by decide) .fragment
    have shadow := job_eq alike .shadowMap (by decide) .fragment
    have written (names : String) : output q names = output p names := by
      rw [output, output, agree.dialect_eq]
    have depth : depthOutput q = depthOutput p := by rw [depthOutput, depthOutput, written]
    have map : shadowOutput q = shadowOutput p := by rw [shadowOutput, shadowOutput, written]
    have alpha : alphaOutput q = alphaOutput p := by
      rw [alphaOutput, alphaOutput, written, agree.has .alphaWrite (by decide)]
    show fragment q scale' select' = fragment p scale select
    rw [fragment_colorless agree.colorless_right, fragment_colorless agree.colorless, agree.purpose_eq,
      agree.has .viewDirection (by decide), agree.has .tbnMatrix (by decide),
      agree.has .transparent (by decide), agree.has .alphaTest (by decide), direction, frame, diffuse,
      shadow, depth, map, alpha]

end Plan

namespace Inputs

open Permutation (colorRoles)

variable {i j : Inputs} {role : Role}

/--
The second inputs differ from the first in nothing but color settings: the light and the fog, the scale
of shadows, whether lights are counted at run time, and what the color roles are bound to.
-/
structure AgreeButColor (i j : Inputs) : Prop where
  settings : ∃ shadowScale dynamicLights defaultBindings,
    j.settings = { i.settings with shadowScale, dynamicLights, defaultBindings }
  material : ∃ lighting bindings, j.material = { i.material with lighting, bindings }
  target : ∃ fog, j.target = { i.target with fog }
  defaults : i.settings.defaultBindings.AgreeExcept colorRoles j.settings.defaultBindings
  bindings : i.material.bindings.AgreeExcept colorRoles j.material.bindings

/-- Outside the color roles, the same names are bound. -/
theorem AgreeButColor.name?_eq (agree : i.AgreeButColor j) (other : role ∉ colorRoles) :
    j.permutation.bindings.name? role = i.permutation.bindings.name? role := by
  have outside : role ∉ Permutation.shadowRoles := by
    have among : ∀ r ∈ Permutation.shadowRoles, r ∈ colorRoles := by decide
    exact fun shadow => other (among role shadow)
  have dark : role ≠ .light := by
    rintro rfl
    exact other (by decide)
  obtain ⟨_, _, material⟩ := agree.material
  exact Permutation.name?_resolveBindings_congr outside (agree.bindings role other)
    (fun light => absurd light dark) (by rw [material]) (agree.defaults role other)

theorem AgreeButColor.permutations (agree : i.AgreeButColor j) (colorless : i.target.purpose ≠ .color) :
    i.permutation.AgreeWithoutColor j.permutation := by
  obtain ⟨_, _, _, settings⟩ := agree.settings
  obtain ⟨_, _, material⟩ := agree.material
  obtain ⟨_, target⟩ := agree.target
  refine ⟨colorless, ⟨j.permutation.bindings, j.permutation.features, ?_⟩, fun g other => ?_⟩
  · unfold permutation Permutation.resolve Permutation.isShadowed
    simp only [settings, material, target]
  · show (Permutation.resolve ..).has g = (Permutation.resolve ..).has g
    rw [Permutation.has_resolve, Permutation.has_resolve, settings, material, target]
    cases g <;> first | rfl | exact absurd (by decide) other

end Inputs

namespace Library

open Permutation (SelectWithoutColor)

variable {i j : Inputs}

theorem selectWithoutColor (library : Library) (agree : i.AgreeButColor j)
    (colorless : i.target.purpose ≠ .color) :
    SelectWithoutColor (library.select i.permutation) (library.select j.permutation) := by
  obtain ⟨_, _, rest⟩ := (agree.permutations colorless).rest
  have dialect : j.permutation.dialect = i.permutation.dialect := by rw [rest]
  have packing : j.permutation.packing = i.permutation.packing := by rw [rest]
  intro role other stage
  rw [select_eq_bind, select_eq_bind, agree.name?_eq other, dialect, packing]

/--
The depth pass and the shadow pass ignore the settings that are meant for the color pass: inputs that
differ in nothing else make the same program, or are refused alike.
-/
theorem build_colorless (library : Library) (agree : i.AgreeButColor j)
    (colorless : i.target.purpose ≠ .color) :
    library.build j.settings j.permutation = library.build i.settings i.permutation := by
  have alike := library.selectWithoutColor agree colorless
  have derived := (agree.permutations colorless).deriveFeatures alike
  exact build_congr derived.outline_eq (Plan.stage_eq derived alike)

/-- The lit surface in a fog, where it also casts shadows. -/
def castSurface : Library :=
  ⟨litSurface.snippets ++ [
    exchange .fog "default" [.viewPosition] [.fog] [],
    exchange .worldDepthTransformation "default" [] [.worldPosition] [],
    exchange .viewTransformation "default" [.worldPosition] [.viewPosition] [],
    exchange .shadowMap "default" [.viewPosition] [.shadowMapData] []]⟩

/-- The shadow pass of the surface among four lights, with fog. -/
def litCaster : Inputs where
  settings := twoAndTwo
  material := { lighting := some "phong" }
  target := { dialect := .glsl330, purpose := .shadow, lights := 4, shadowMaps := 1, fog := true }

/-- The same pass of a surface that is not lit and has no texture for its normals, without fog. -/
def bareCaster : Inputs where
  settings := { twoAndTwo with
    shadowScale := 0.25
    dynamicLights := true
    defaultBindings := twoAndTwo.defaultBindings.unbind .normalDepthMapping }
  material := { bindings := .bind .empty .shadowMapping "soft" }
  target := { dialect := .glsl330, purpose := .shadow, lights := 4, shadowMaps := 1 }

/-- The texture for normals reads the normal, which is not asked for: both cast the same shadow. -/
theorem castSurface_colorless :
    litCaster.AgreeButColor bareCaster ∧ litCaster.target.purpose ≠ .color ∧
      (castSurface.derived litCaster.permutation).has .viewPosition = true ∧
      (castSurface.derived litCaster.permutation).has .normal = false ∧
      ∃ e, castSurface.build litCaster.settings litCaster.permutation = .ok e ∧
        castSurface.build bareCaster.settings bareCaster.permutation = .ok e := by
  have agree : litCaster.AgreeButColor bareCaster :=
    ⟨⟨_, _, _, rfl⟩, ⟨_, _, rfl⟩, ⟨_, rfl⟩, Bindings.agreeExcept_unbind (by decide) _,
      Bindings.agreeExcept_bind (by decide) _ _⟩
  have colorless : litCaster.target.purpose ≠ .color := by decide
  obtain ⟨e, built⟩ : ∃ e, castSurface.build litCaster.settings litCaster.permutation = .ok e :=
    exists_of_isOk (by decide +kernel)
  refine ⟨agree, colorless, by decide +kernel, by decide +kernel, e, built, ?_⟩
  exact (build_colorless castSurface agree colorless).trans built

end Library

end ShaderComposition
