import ShaderComposition.Interface
import ShaderComposition.Proofs.Scope.Run

/-!
# How globals are sorted

What a list of the interface holds is said by membership alone: by the stage that a global is from,
whether it is read there, and what the other stage has under its name. The text of the fragment stage
declares every name once (`declared_fragment_unique`).
-/

namespace ShaderComposition

open Vocabulary (spelling)

namespace Scope

/-- A global of the name is read and not produced. -/
def Reads (s : Scope) (n : String) : Prop :=
  ∃ p ∈ s.globals, p.name = n ∧ p.qualifier = .input

/-- A global of the name is produced. -/
def Produces (s : Scope) (n : String) : Prop :=
  ∃ p ∈ s.globals, p.name = n ∧ p.qualifier ≠ .input

instance (s : Scope) (n : String) : Decidable (s.Reads n) :=
  inferInstanceAs (Decidable (∃ p ∈ s.globals, p.name = n ∧ p.qualifier = .input))

instance (s : Scope) (n : String) : Decidable (s.Produces n) :=
  inferInstanceAs (Decidable (∃ p ∈ s.globals, p.name = n ∧ p.qualifier ≠ .input))

/-- A name is read or produced but not both. -/
theorem Coherent.not_produces {s : Scope} {n : String} (hs : s.Coherent) (read : s.Reads n) :
    ¬ s.Produces n := by
  rintro ⟨q, hq, same, produced⟩
  obtain ⟨p, hp, rfl, input⟩ := read
  exact produced (hs.distinct.left.eq_of_name hq hp same ▸ input)

end Scope

namespace Interface

variable {v f : Scope} {p q : Parameter} {n : String}

theorem attribute?_eq_some_iff {b : AttributeBinding} :
    attribute? p = some b ↔ spelling b.channel = p.name ∧ b.parameter = p := by
  simp only [attribute?, Option.map_eq_some_iff, Vocabulary.symbol?_eq_some_iff]
  constructor
  · rintro ⟨a, same, rfl⟩
    exact ⟨same, rfl⟩
  · rintro ⟨same, rfl⟩
    exact ⟨b.channel, same, rfl⟩

theorem attribute?_eq_none_iff : attribute? p = none ↔ ∀ a : VertexAttribute, spelling a ≠ p.name := by
  rw [Option.eq_none_iff_forall_ne_some]
  constructor
  · intro h a same
    exact h ⟨a, p⟩ (attribute?_eq_some_iff.2 ⟨same, rfl⟩)
  · intro h b found
    exact h b.channel (attribute?_eq_some_iff.1 found).1

theorem declares_iff {ds : List Parameter} : declares ds n = true ↔ ∃ d ∈ ds, d.name = n := by
  simp [declares]

/-! ## What the lists hold -/

theorem mem_attributes {b : AttributeBinding} :
    b ∈ (ofScopes v f).attributes ↔
      b.parameter ∈ v.globals ∧ b.parameter.qualifier = .input ∧
        spelling b.channel = b.parameter.name := by
  simp only [ofScopes, List.mem_filterMap, List.mem_filter, decide_eq_true_eq,
    attribute?_eq_some_iff]
  constructor
  · rintro ⟨p, ⟨hp, input⟩, same, rfl⟩
    exact ⟨hp, input, same⟩
  · rintro ⟨hp, input, same⟩
    exact ⟨b.parameter, ⟨hp, input⟩, same, rfl⟩

theorem mem_vertexUniforms :
    p ∈ (ofScopes v f).vertexUniforms ↔
      p ∈ v.globals ∧ p.qualifier = .input ∧ ∀ a : VertexAttribute, spelling a ≠ p.name := by
  simp only [ofScopes, List.mem_filter, decide_eq_true_eq, Option.isNone_iff_eq_none,
    attribute?_eq_none_iff, and_assoc]

theorem mem_varyings :
    p ∈ (ofScopes v f).varyings ↔
      p ∈ v.globals ∧ p.qualifier ≠ .input ∧ ∃ q ∈ f.globals, q.name = p.name := by
  simp only [ofScopes, List.mem_filter, decide_eq_true_eq, declares_iff, and_assoc]

theorem mem_vertexTemporaries :
    p ∈ (ofScopes v f).vertexTemporaries ↔
      (p ∈ v.globals ∧ p.qualifier ≠ .input ∧ ∀ q ∈ f.globals, q.name ≠ p.name) ∨ p ∈ v.locals := by
  simp only [ofScopes, List.mem_append, List.mem_filter, decide_eq_true_eq, Bool.not_eq_true',
    declares, List.any_eq_false, beq_iff_eq, and_assoc, ne_eq]

/-- A global of the fragment stage is its own unless the vertex stage produces the name. -/
theorem declares_varyings (hp : p ∈ f.globals) :
    declares (ofScopes v f).varyings p.name = true ↔ v.Produces p.name := by
  simp only [declares_iff, mem_varyings, Scope.Produces]
  constructor
  · rintro ⟨d, ⟨hd, produced, -⟩, same⟩
    exact ⟨d, hd, same, produced⟩
  · rintro ⟨d, hd, same, produced⟩
    exact ⟨d, ⟨hd, produced, p, hp, same.symm⟩, same⟩

theorem mem_fragmentUniforms :
    p ∈ (ofScopes v f).fragmentUniforms ↔
      p ∈ f.globals ∧ p.qualifier = .input ∧ ¬ v.Produces p.name := by
  show p ∈ (f.globals.filter fun p => !declares (ofScopes v f).varyings p.name).filter _ ↔ _
  simp only [List.mem_filter, decide_eq_true_eq, Bool.not_eq_true']
  constructor
  · rintro ⟨⟨hp, own⟩, input⟩
    exact ⟨hp, input, fun h => by simp [(declares_varyings hp).2 h] at own⟩
  · rintro ⟨hp, input, own⟩
    exact ⟨⟨hp, Bool.eq_false_iff.2 fun h => own ((declares_varyings hp).1 h)⟩, input⟩

theorem mem_fragmentTemporaries :
    p ∈ (ofScopes v f).fragmentTemporaries ↔
      (p ∈ f.globals ∧ p.qualifier ≠ .input ∧ ¬ v.Produces p.name) ∨ p ∈ f.locals := by
  show p ∈ (f.globals.filter fun p => !declares (ofScopes v f).varyings p.name).filter _ ++ _ ↔ _
  simp only [List.mem_append, List.mem_filter, decide_eq_true_eq, Bool.not_eq_true']
  refine or_congr_left ?_
  constructor
  · rintro ⟨⟨hp, own⟩, produced⟩
    exact ⟨hp, produced, fun h => by simp [(declares_varyings hp).2 h] at own⟩
  · rintro ⟨hp, produced, own⟩
    exact ⟨⟨hp, Bool.eq_false_iff.2 fun h => own ((declares_varyings hp).1 h)⟩, produced⟩

/-- The fragment text declares what the vertex stage hands over and what is the stage's own. -/
theorem mem_declared_fragment (noLocals : f.locals = []) :
    p ∈ (ofScopes v f).declared .fragment ↔
      (p ∈ f.globals ∧ ¬ v.Produces p.name) ∨
        (p ∈ v.globals ∧ p.qualifier ≠ .input ∧ ∃ q ∈ f.globals, q.name = p.name) := by
  simp only [declared, List.mem_append, mem_fragmentUniforms, mem_varyings, mem_fragmentTemporaries,
    noLocals, List.not_mem_nil, or_false]
  constructor
  · rintro ((⟨hp, -, own⟩ | varying) | ⟨hp, -, own⟩)
    · exact .inl ⟨hp, own⟩
    · exact .inr varying
    · exact .inl ⟨hp, own⟩
  · rintro (⟨hp, own⟩ | varying)
    · by_cases input : p.qualifier = .input
      · exact .inl (.inl ⟨hp, input, own⟩)
      · exact .inr ⟨hp, input, own⟩
    · exact .inl (.inr varying)

/-- The fragment text declares no name twice. -/
theorem declared_fragment_unique (hv : DistinctNames v.globals) (hf : DistinctNames f.globals)
    (noLocals : f.locals = []) (hp : p ∈ (ofScopes v f).declared .fragment)
    (hq : q ∈ (ofScopes v f).declared .fragment) (same : p.name = q.name) : p = q := by
  rw [mem_declared_fragment noLocals] at hp hq
  rcases hp with ⟨hp, ownP⟩ | ⟨hp, producedP, -⟩
  · rcases hq with ⟨hq, -⟩ | ⟨hq, producedQ, -⟩
    · exact hf.eq_of_name hp hq same
    · exact absurd ⟨q, hq, same.symm, producedQ⟩ ownP
  · rcases hq with ⟨hq, ownQ⟩ | ⟨hq, -, -⟩
    · exact absurd ⟨p, hp, same, producedP⟩ ownQ
    · exact hv.eq_of_name hp hq same

end Interface

end ShaderComposition
