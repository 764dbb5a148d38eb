import ShaderComposition.Catalog.SharedValue
import ShaderComposition.Proofs.Interface.Sorting

/-!
# Name spaces of an interface

Attributes, varyings and uniforms are bound by name, so a name should stand for one of them only. The
scopes of a stage keep their names distinct, which separates what the vertex stage reads from what it
produces; varyings leave both stages. What is left is a vertex attribute that the fragment stage reads
under the same name: it is an attribute and a uniform at once
(`attributes_apart_fragmentUniforms_iff`).
-/

namespace ShaderComposition

open Vocabulary (spelling)

/-- No name occurs on both sides. -/
def NamesApart (ds es : List Parameter) : Prop :=
  ∀ d ∈ ds, ∀ e ∈ es, d.name ≠ e.name

instance (ds es : List Parameter) : Decidable (NamesApart ds es) :=
  inferInstanceAs (Decidable (∀ d ∈ ds, ∀ e ∈ es, d.name ≠ e.name))

namespace Interface

/-- The parameters that attributes supply. -/
def attributeParameters (i : Interface) : List Parameter :=
  i.attributes.map (·.parameter)

/-- A name belongs to attributes, to varyings or to uniforms of either stage, and to one of them. -/
structure SpacesDisjoint (i : Interface) : Prop where
  attributes_varyings : NamesApart i.attributeParameters i.varyings
  attributes_uniforms : NamesApart i.attributeParameters i.uniforms
  varyings_uniforms : NamesApart i.varyings i.uniforms

variable {v f : Scope}

theorem mem_attributeParameters {p : Parameter} :
    p ∈ (ofScopes v f).attributeParameters ↔
      p ∈ v.globals ∧ p.qualifier = .input ∧ ∃ a : VertexAttribute, spelling a = p.name := by
  simp only [attributeParameters, List.mem_map, mem_attributes]
  constructor
  · rintro ⟨b, ⟨hp, input, same⟩, rfl⟩
    exact ⟨hp, input, b.channel, same⟩
  · rintro ⟨hp, input, a, same⟩
    exact ⟨⟨a, p⟩, ⟨hp, input, same⟩, rfl⟩

/-- What the vertex stage reads is no varying. -/
theorem read_apart_varyings (hv : v.Coherent) {p : Parameter} (hp : p ∈ v.globals)
    (input : p.qualifier = .input) : ∀ q ∈ (ofScopes v f).varyings, p.name ≠ q.name := by
  intro q hq same
  obtain ⟨hq, produced, -⟩ := mem_varyings.1 hq
  exact hv.not_produces ⟨p, hp, rfl, input⟩ ⟨q, hq, same.symm, produced⟩

theorem attributes_apart_varyings (hv : v.Coherent) :
    NamesApart (ofScopes v f).attributeParameters (ofScopes v f).varyings := by
  intro p hp
  obtain ⟨hp, input, -⟩ := mem_attributeParameters.1 hp
  exact read_apart_varyings hv hp input

theorem attributes_apart_vertexUniforms :
    NamesApart (ofScopes v f).attributeParameters (ofScopes v f).vertexUniforms := by
  intro p hp q hq same
  obtain ⟨-, -, a, spelled⟩ := mem_attributeParameters.1 hp
  exact (mem_vertexUniforms.1 hq).2.2 a (spelled.trans same)

theorem varyings_apart_uniforms (hv : v.Coherent) :
    NamesApart (ofScopes v f).varyings (ofScopes v f).uniforms := by
  intro p hp q hq same
  rcases List.mem_append.1 hq with own | own
  · obtain ⟨hq, input, -⟩ := mem_vertexUniforms.1 own
    exact read_apart_varyings hv hq input p hp same.symm
  · obtain ⟨-, -, notProduced⟩ := mem_fragmentUniforms.1 own
    obtain ⟨hp, produced, -⟩ := mem_varyings.1 hp
    exact notProduced ⟨p, hp, same, produced⟩

/-- An attribute is a uniform of the fragment stage just where both stages read it. -/
theorem attributes_apart_fragmentUniforms_iff (hv : v.Coherent) :
    NamesApart (ofScopes v f).attributeParameters (ofScopes v f).fragmentUniforms ↔
      ∀ a : VertexAttribute, ¬ (v.Reads (spelling a) ∧ f.Reads (spelling a)) := by
  constructor
  · rintro apart a ⟨⟨p, hp, spelled, input⟩, q, hq, same, read⟩
    have supplied : p ∈ (ofScopes v f).attributeParameters :=
      mem_attributeParameters.2 ⟨hp, input, a, spelled.symm⟩
    have own := hv.not_produces ⟨p, hp, spelled.trans same.symm, input⟩
    exact apart p supplied q (mem_fragmentUniforms.2 ⟨hq, read, own⟩) (spelled.trans same.symm)
  · intro notBoth p hp q hq same
    obtain ⟨hp, input, a, spelled⟩ := mem_attributeParameters.1 hp
    obtain ⟨hq, read, -⟩ := mem_fragmentUniforms.1 hq
    exact notBoth a ⟨⟨p, hp, spelled.symm, input⟩, q, hq, same.symm.trans spelled.symm, read⟩

/--
The name spaces of an interface are disjoint unless both stages read the name of a vertex attribute,
and then only attributes and the uniforms of the fragment stage meet.
-/
theorem spacesDisjoint_iff (f : Scope) (hv : v.Reachable) :
    ((ofScopes v f).SpacesDisjoint ↔
        ∀ a : VertexAttribute, ¬ (v.Reads (spelling a) ∧ f.Reads (spelling a))) ∧
      NamesApart (ofScopes v f).attributeParameters (ofScopes v f).varyings ∧
      NamesApart (ofScopes v f).attributeParameters (ofScopes v f).vertexUniforms ∧
      NamesApart (ofScopes v f).varyings (ofScopes v f).uniforms := by
  have attributes := attributes_apart_varyings (f := f) hv.coherent
  have varyings := varyings_apart_uniforms (f := f) hv.coherent
  refine ⟨?_, attributes, attributes_apart_vertexUniforms, varyings⟩
  rw [← attributes_apart_fragmentUniforms_iff hv.coherent]
  constructor
  · intro disjoint p hp q hq
    exact disjoint.attributes_uniforms p hp q (List.mem_append_right _ hq)
  · intro apart
    refine ⟨attributes, ?_, varyings⟩
    intro p hp q hq
    rcases List.mem_append.1 hq with own | own
    · exact attributes_apart_vertexUniforms p hp q own
    · exact apart p hp q own

/-- A fragment stage may read the name of an attribute that the vertex stage does not read. -/
theorem spacesDisjoint_one_reader :
    let v := Scope.declaring .vertex
      [Catalog.parameter VertexAttribute.position, Catalog.producedBy SharedValue.worldNormal "world"]
    let f := Scope.declaring .fragment
      [Catalog.parameter SharedValue.worldNormal, Catalog.parameter VertexAttribute.color]
    v.Reachable ∧ (ofScopes v f).SpacesDisjoint := by
  refine ⟨Scope.reachable_declaring _ _, ?_⟩
  refine (spacesDisjoint_iff _ (Scope.reachable_declaring _ _)).1.2 ?_
  intro a
  cases a <;> decide

/-- A color that both stages read is an attribute and a uniform. -/
theorem spaces_meet_two_readers :
    let v := Scope.declaring .vertex [Catalog.parameter VertexAttribute.color]
    let f := Scope.declaring .fragment [Catalog.parameter VertexAttribute.color]
    v.Reachable ∧ f.Reachable ∧ ¬ (ofScopes v f).SpacesDisjoint := by
  refine ⟨Scope.reachable_declaring _ _, Scope.reachable_declaring _ _, fun disjoint => ?_⟩
  exact absurd disjoint.attributes_uniforms (by decide)

end Interface

end ShaderComposition
