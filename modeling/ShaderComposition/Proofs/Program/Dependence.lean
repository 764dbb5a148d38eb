import ShaderComposition.Proofs.Composition.Writing
import ShaderComposition.Proofs.Library.Growth

/-!
# What a program depends on

A program is written from the parts of its stages and an outline: a name, a target, and how long arrays
are. So two builds are the same where parts and outlines are (`build_congr`). The bindings and the
library count only by the snippets that are selected with them (`build_of_select`).
-/

namespace ShaderComposition

/-- What the text of a program takes from a permutation besides the parts of the stages. -/
structure Outline where
  name : String
  dialect : Dialect
  purpose : Purpose
  lengths : ArrayLengths

namespace Permutation

variable {select : Selection} {p : Permutation} {b : Bindings}

def outline (p : Permutation) : Outline :=
  ⟨p.name, p.dialect, p.purpose, p.arrayLengths⟩

/-- The permutation with other bindings. -/
def rebind (p : Permutation) (b : Bindings) : Permutation :=
  { p with bindings := b }

/-- The permutation with other features. -/
def withFeatures (p : Permutation) (features : Features) : Permutation :=
  { p with features }

/-- A change of a permutation that deriving features takes no notice of. -/
structure Unnoticed (change : Permutation → Permutation) : Prop where
  withFeatures : ∀ p features, change (p.withFeatures features) = (change p).withFeatures features
  schedule : ∀ p, (change p).schedule = p.schedule
  vertexLighting : ∀ p, (change p).vertexLighting = p.vertexLighting

namespace Unnoticed

variable {change : Permutation → Permutation}

theorem features (h : Unnoticed change) (p : Permutation) : (change p).features = p.features := by
  have same : change p = (change p).withFeatures p.features := h.withFeatures p p.features
  rw [same]
  rfl

theorem derive (h : Unnoticed change) (p : Permutation) (f : Feature) (value : SharedValue) :
    (change p).derive select f value = change (p.derive select f value) := by
  have read : (change p).reads select value = p.reads select value := by
    rw [reads, h.schedule, reads]
  show (change p).withFeatures ((change p).features.set f ((change p).reads select value)) =
    change (p.withFeatures (p.features.set f (p.reads select value)))
  rw [read, h.features, h.withFeatures]

theorem deriveAll (h : Unnoticed change) (p : Permutation) (ds : List (Feature × SharedValue)) :
    (change p).deriveAll select ds = change (p.deriveAll select ds) := by
  induction ds generalizing p with
  | nil => rfl
  | cons d ds ih => rw [deriveAll_cons, h.derive, ih, deriveAll_cons]

theorem forceNormal (h : Unnoticed change) (p : Permutation) :
    (change p).forceNormal = change p.forceNormal := by
  unfold Permutation.forceNormal
  rw [h.vertexLighting, h.features]
  split
  · exact (h.withFeatures p _).symm
  · rfl

/-- The change can be made before or after features are derived. -/
theorem deriveFeatures (h : Unnoticed change) (p : Permutation) :
    (change p).deriveFeatures select = change (p.deriveFeatures select) := by
  have plain : (change p).plain = change p.plain := by
    show (change p).withFeatures _ = change (p.withFeatures _)
    rw [h.features, h.withFeatures]
  rw [deriveFeatures_eq, plain, h.deriveAll, h.forceNormal, deriveFeatures_eq]

end Unnoticed

/-- Which features are derived depends on what is selected, and not on the bindings themselves. -/
theorem unnoticed_rebind (b : Bindings) : Unnoticed (rebind · b) :=
  ⟨fun _ _ => rfl, fun _ => rfl, fun _ => rfl⟩

end Permutation

/-- The parts of a stage depend on what is selected, and not on the bindings themselves. -/
theorem Plan.stage_rebind (p : Permutation) (b : Bindings) (scale : Float32) (select : Selection)
    (stage : Stage) : Plan.stage (p.rebind b) scale select stage = Plan.stage p scale select stage := by
  cases stage <;> rfl

theorem Emission.ofInterface_congr {p q : Permutation} (same : q.outline = p.outline) (i : Interface)
    (vertexMain fragmentMain : String) :
    ofInterface q i vertexMain fragmentMain = ofInterface p i vertexMain fragmentMain := by
  simp only [Permutation.outline, Outline.mk.injEq] at same
  obtain ⟨name, dialect, purpose, lengths⟩ := same
  simp only [ofInterface, vertexBody, fragmentBody, header, name, dialect, purpose, lengths]

namespace Library

variable {library other : Library} {settings settings' : Settings} {p q : Permutation} {b : Bindings}
  {role : Role} {name : String} {history : List Snippet}

/-! ## Parts and outline -/

theorem stages_eq_parts (library : Library) (settings : Settings) (p : Permutation) :
    library.stages settings p = do
      let vertex ← StageSource.ofParts (library.derived p).outline.lengths .vertex
        (library.parts settings p .vertex)
      let fragment ← StageSource.ofParts (library.derived p).outline.lengths .fragment
        (library.parts settings p .fragment)
      return ⟨vertex, fragment⟩ := rfl

theorem build_eq_stages (library : Library) (settings : Settings) (p : Permutation) :
    library.build settings p = do
      let pair ← library.stages settings p
      return .ofInterface (library.derived p) (.ofScopes pair.vertex.scope pair.fragment.scope)
        pair.vertex.main pair.fragment.main := rfl

/-- Two builds are the same, also in how they fail, if they have the same parts and outline. -/
theorem build_congr (outline : (other.derived q).outline = (library.derived p).outline)
    (parts : ∀ stage, other.parts settings' q stage = library.parts settings p stage) :
    other.build settings' q = library.build settings p := by
  have stages : other.stages settings' q = library.stages settings p := by
    rw [stages_eq_parts, stages_eq_parts, outline, parts, parts]
  rw [build_eq_stages, build_eq_stages, stages]
  simp only [Emission.ofInterface_congr outline]

/-! ## Selections -/

/-- A program depends on library and bindings only by what is selected with them. -/
theorem build_of_select (same : other.select (p.rebind b) = library.select p) :
    other.build settings (p.rebind b) = library.build settings p := by
  have derived : other.derived (p.rebind b) = (library.derived p).rebind b := by
    rw [Library.derived, same, (Permutation.unnoticed_rebind b).deriveFeatures, Library.derived]
  refine build_congr ?_ fun stage => ?_
  · rw [derived]
    rfl
  · rw [parts, parts, same, derived, Plan.stage_rebind]

/-- A role is served no worse without a name that it is not registered under. -/
theorem select_unbind_of_unregistered (bound : p.bindings.name? role = some name)
    (unregistered : name ∉ library.names role) :
    library.select (p.rebind (p.bindings.unbind role)) = library.select p := by
  funext r stage
  rw [select_eq_bind, select_eq_bind]
  by_cases same : r = role
  · subst same
    rw [bound, Option.bind_some, lookup_eq_none_of_unregistered unregistered]
    simp [Permutation.rebind]
  · simp only [Permutation.rebind, Bindings.name?_unbind, if_neg same]

/-- Snippets that are offered later count only where they are selected. -/
theorem select_foldl_offered
    (unresolved : ∀ s ∈ history, s ∉ library.snippets → ∀ role stage,
      (history.foldl offered library).select p role stage ≠ some s) :
    (history.foldl offered library).select p = library.select p := by
  funext role stage
  cases bound : p.bindings.name? role with
  | none => rw [select_eq_bind, select_eq_bind, bound, Option.bind_none, Option.bind_none]
  | some name =>
    rcases library.lookup_foldl_offered history role name stage p.dialect p.packing with
      same | ⟨s, member, fresh, found⟩
    · rw [select_eq_bind, select_eq_bind, bound, Option.bind_some, Option.bind_some, same]
    · refine absurd ?_ (unresolved s member fresh role stage)
      rw [select_eq_bind, bound, Option.bind_some, found]

/--
A program depends on the library and on the bindings only by the snippets that they select. Permutations
that differ in their bindings alone are built alike, in one library or in two, if every role and stage
is served by the same snippet or by none in both. So a role that is bound to a name without snippets
might as well be unbound, and snippets that are offered to the library later change nothing unless a
bound role is served by one of them.
-/
theorem build_through_selection (library : Library) (settings : Settings) (p : Permutation) :
    (∀ (other : Library) (b : Bindings),
        (∀ role stage, other.select (p.rebind b) role stage = library.select p role stage) →
        other.build settings (p.rebind b) = library.build settings p) ∧
      (∀ role name, p.bindings.name? role = some name → name ∉ library.names role →
        library.build settings (p.rebind (p.bindings.unbind role)) = library.build settings p) ∧
      ∀ history : List Snippet,
        let later := history.foldl offered library
        (∀ s ∈ history, s ∉ library.snippets →
          ∀ role stage, later.select p role stage ≠ some s) →
        later.build settings p = library.build settings p := by
  refine ⟨fun other b same => ?_, fun role name bound unregistered => ?_, ?_⟩
  · exact build_of_select (funext fun role => funext fun stage => same role stage)
  · exact build_of_select (select_unbind_of_unregistered bound unregistered)
  · intro history later unresolved
    have same : later.select (p.rebind p.bindings) = library.select p := select_foldl_offered unresolved
    exact build_of_select same

/-- Another way to map textures, which the surface is not bound to. -/
def atlas : Snippet :=
  exchange .uv "atlas" [] [.worldUv] []

/--
The surface has no fog snippets, though the fog is bound to a name. Without this name, and in a library
that has another snippet to map textures, the same program is built.
-/
theorem litSurface_through_selection :
    let unbound := surfaceColor.rebind (surfaceColor.bindings.unbind .fog)
    let later := [atlas].foldl offered litSurface
    surfaceColor.bindings.name? .fog = some "default" ∧ later.names .uv = ["atlas", "default"] ∧
      ∃ e, litSurface.build twoAndTwo surfaceColor = .ok e ∧
        litSurface.build twoAndTwo unbound = .ok e ∧
        later.build twoAndTwo surfaceColor = .ok e ∧ later.build twoAndTwo unbound = .ok e := by
  intro unbound later
  obtain ⟨e, built⟩ : ∃ e, litSurface.build twoAndTwo surfaceColor = .ok e :=
    exists_of_isOk (by decide +kernel)
  have bound : surfaceColor.bindings.name? .fog = some "default" := by decide +kernel
  have unregistered : "default" ∉ litSurface.names .fog := by decide +kernel
  have served : ∀ role ∈ Vocabulary.all Role, ∀ stage ∈ Vocabulary.all Stage,
      later.select unbound role stage = litSurface.select surfaceColor role stage ∧
        later.select surfaceColor role stage ≠ some atlas := by decide +kernel
  have alike (role : Role) (stage : Stage) :=
    served role (Vocabulary.complete role) stage (Vocabulary.complete stage)
  obtain ⟨selected, unbinding, offering⟩ := build_through_selection litSurface twoAndTwo surfaceColor
  refine ⟨bound, by decide +kernel, e, built, ?_, ?_, ?_⟩
  · exact (unbinding .fog "default" bound unregistered).trans built
  · refine (offering [atlas] fun s member _ role stage => ?_).trans built
    rw [List.mem_singleton.1 member]
    exact (alike role stage).2
  · exact (selected later _ fun role stage => (alike role stage).1).trans built

end Library

end ShaderComposition
