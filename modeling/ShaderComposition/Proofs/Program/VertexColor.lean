import ShaderComposition.Proofs.Composition.LightCounts
import ShaderComposition.Proofs.Interface.Accounting
import ShaderComposition.Proofs.Program.Producers

/-!
# The light of the vertex stage

Where the vertex stage handles lights, it hands their sum to the fragment stage. However either stage
is lit, by a light block or without one, the vertex stage produces the sum and the fragment stage reads
it (`Plan.handedOn_mem_declarations`). So the sum is a varying of the program, and its name stands for
nothing else (`Library.vertex_color_handed_on`), whatever the snippets declare.
-/

namespace ShaderComposition

open Vocabulary (spelling)

/-- The sum of the vertex stage's lights, as the lighting of a stage declares it. -/
def handedOn : Stage → Parameter
  | .vertex => Catalog.producedBy SharedValue.vertexColor lightingSource
  | .fragment => Catalog.readBy SharedValue.vertexColor lightingSource

theorem handedOn_name (stage : Stage) : (handedOn stage).name = "vertex_color" := by
  cases stage <;> rfl

variable {p : Permutation} {scale : Float32} {select : Selection} {stage : Stage} {shadowed : Bool}

/-- With lights in the vertex stage the fragment stage starts from their sum. -/
theorem handedOn_mem_ambientTerm (lit : p.vertexLighting = true) :
    handedOn .fragment ∈ (ambientTerm p .fragment).parameters := by
  simp [ambientTerm, lit, handedOn]

/-- A light block asks its stage for the sum. -/
theorem LightBlock.handedOn_mem_declarations (lit : p.vertexLighting = true) (light : Snippet) :
    handedOn stage ∈ (forStage p scale stage light shadowed).declarations := by
  have handed : (forStage p scale stage light shadowed).keeps (handedOn stage).name = false := by
    cases stage <;> cases shadowed <;> rfl
  refine List.mem_filter.2 ⟨?_, congrArg not handed⟩
  cases stage with
  | vertex => exact List.mem_append_right _ List.mem_cons_self
  | fragment =>
    have input : handedOn .fragment ∈ (forStage p scale .fragment light shadowed).inputs := by
      iterate 4 apply List.mem_append_left
      exact handedOn_mem_ambientTerm lit
    exact List.mem_append_left _ (List.mem_append_left _ input)

namespace Plan

/-- Lighting without a light block asks the stage for the sum. -/
theorem handedOn_mem_ambient (lit : p.vertexLighting = true) :
    handedOn stage ∈ (ambient p stage).declarations := by
  cases stage with
  | vertex => exact List.mem_append_right _ List.mem_cons_self
  | fragment => exact List.mem_append_left _ (handedOn_mem_ambientTerm lit)

/-- However a stage is lit, a part of it asks the stage for the sum. -/
theorem exists_lighting_asks (lit : p.vertexLighting = true) :
    ∃ part ∈ lighting p scale select stage shadowed, handedOn stage ∈ part.declarations := by
  unfold lighting
  split
  next light found =>
    exact ⟨_, List.mem_singleton_self _, LightBlock.handedOn_mem_declarations lit light⟩
  next => exact ⟨_, List.mem_singleton_self _, handedOn_mem_ambient lit⟩

theorem exists_colorLighting_asks (lit : p.vertexLighting = true) :
    ∃ part ∈ colorLighting p scale select, handedOn .fragment ∈ part.declarations := by
  obtain ⟨-, -, lights⟩ := Permutation.vertexLighting_iff.1 lit
  unfold colorLighting
  split
  · obtain ⟨part, member, asks⟩ := exists_lighting_asks lit
    exact ⟨part, List.mem_append_right _ member, asks⟩
  · exact ⟨_, List.mem_singleton_self _, handedOn_mem_ambient lit⟩

/-- The vertex stage produces the sum of its lights, and the fragment stage reads it. -/
theorem handedOn_mem_declarations (lit : p.vertexLighting = true) :
    handedOn stage ∈ declarations (Plan.stage p scale select stage) := by
  apply List.mem_flatMap.2
  cases stage with
  | vertex =>
    obtain ⟨part, member, asks⟩ := exists_lighting_asks lit
    have needed : part ∈ when p.vertexLighting (lighting p scale select .vertex false) :=
      mem_when.2 ⟨lit, member⟩
    refine ⟨part, ?_, asks⟩
    iterate 2 apply List.mem_append_left
    exact List.mem_append_right _ needed
  | fragment =>
    obtain ⟨color, -⟩ := Permutation.vertexLighting_iff.1 lit
    obtain ⟨part, member, asks⟩ := exists_colorLighting_asks lit
    have surfaced : part ∈ surface p scale select := by
      unfold surface
      rw [color]
      exact List.mem_append_left _ (List.mem_append_right _ member)
    exact ⟨part, List.mem_append_left _ (List.mem_append_right _ surfaced), asks⟩

end Plan

namespace Library

variable {library : Library} {settings : Settings} {e : Emission}

/--
Where the vertex stage handles lights, the interface hands on a `vertex_color` of three floats to the
fragment stage. It is the only varying of that name, and nothing else in either stage has the name.
-/
theorem vertex_color_handed_on (built : library.build settings p = .ok e)
    (lit : p.vertexLighting = true) :
    ∃ x, named e.interface.varyings "vertex_color" = [x] ∧ x.shape.type = .data .vec3 ∧
      x.shape.isArray = false ∧
      ∀ stage k, k ≠ .varyings → ∀ d ∈ e.interface.listing stage k, d.name ≠ "vertex_color" := by
  obtain ⟨pair, composed, rfl⟩ := build_eq_ok_iff.1 built
  obtain ⟨vertex, fragment⟩ := stages_hold composed
  have derived : (library.derived p).vertexLighting = true :=
    (agrees_derived library p).lighting.1.trans lit
  obtain ⟨x, hx, name, covers⟩ := vertex.entry (Plan.handedOn_mem_declarations derived)
  obtain ⟨y, hy, shared, -⟩ := fragment.entry (Plan.handedOn_mem_declarations derived)
  rw [handedOn_name] at name shared
  have varying : x ∈ (Interface.ofScopes pair.vertex.scope pair.fragment.scope).varyings :=
    Interface.mem_varyings.2 ⟨hx, covers.not_input (by decide), y, hy, shared.trans name.symm⟩
  have distinct : DistinctNames (Interface.ofScopes pair.vertex.scope pair.fragment.scope).varyings :=
    vertex.distinct.sublist (Interface.listing_vertex_sublist (k := .varyings) (by decide))
  have sole := distinct.named_eq varying
  rw [name] at sole
  refine ⟨x, sole, by rw [covers.shape]; rfl, by rw [covers.shape]; rfl, ?_⟩
  intro stage k other d hd
  rw [← name]
  exact Interface.listing_apart_varyings vertex.coherent fragment.coherent other hd x varying

/-- The surface is lit by a light block in either stage. -/
theorem litSurface_vertex_color :
    ∃ e x, litSurface.build twoAndTwo surfaceColor = .ok e ∧
      surfaceColor.vertexLighting = true ∧
      named e.interface.varyings "vertex_color" = [x] ∧ x.shape.type = .data .vec3 ∧
      x.shape.isArray = false ∧
      ∀ stage k, k ≠ .varyings → ∀ d ∈ e.interface.listing stage k, d.name ≠ "vertex_color" := by
  obtain ⟨e, built⟩ : ∃ e, litSurface.build twoAndTwo surfaceColor = .ok e :=
    exists_of_isOk (by decide +kernel)
  have lit : surfaceColor.vertexLighting = true := by decide +kernel
  obtain ⟨x, handed⟩ := vertex_color_handed_on built lit
  exact ⟨e, x, built, lit, handed⟩

end Library

end ShaderComposition
