import ShaderComposition.Proofs.Program.DeclaredUses
import ShaderComposition.Proofs.Program.ShadowSettings

/-!
# Scratch values of the light block

What the light block needs for itself has names like any other parameter, and the light snippet may
declare any of them. None of them gets out of the block: it keeps the scratch values and the results of
the snippet (`LightBlock.keeps_scratchNames`), and the program's own statements around it do without
these names. So a list of the interface holds such a name only if a snippet of another role asks for it
(`Library.scratch_listed_iff`).
-/

namespace ShaderComposition

namespace LightBlock

/-- The names that a light block of a stage has for itself. -/
def scratchNames (stage : Stage) (shadowed : Bool) : List String :=
  ["i", "diffuse_colors_sum", "light_color", "light_position", "diffuse_color", "specular_color"] ++
    (if stage = .fragment then ["specular_colors_sum"] else []) ++
    if shadowed then ["shadow_values"] else []

variable {stage : Stage} {shadowed : Bool} {n : String}

/-- No block has more names for itself than a shadowed one of the fragment stage. -/
theorem scratchNames_subset (stage : Stage) (shadowed : Bool) :
    scratchNames stage shadowed ⊆ scratchNames .fragment true := by
  cases stage <;> cases shadowed <;> decide

/-- The light block of a stage keeps the names that it has for itself. -/
theorem keeps_scratchNames {p q : Permutation} {scale : Float32} {select : Selection} {light : Snippet}
    (h : n ∈ scratchNames stage (Plan.shadowed q select stage)) :
    (forStage p scale stage light (Plan.shadowed q select stage)).keeps n = true := by
  refine List.all_eq_true.1 ?_ n h
  cases stage with
  | vertex => rfl
  | fragment => cases Plan.shadowed q select .fragment <;> rfl

/-- A block hands on nothing that it keeps. -/
theorem not_keeps_of_declaration {b : LightBlock} {d : Parameter} (hd : d ∈ b.declarations) :
    b.keeps d.name = false := by
  simpa using (List.mem_filter.1 hd).2

end LightBlock

namespace Plan

/-- The program's own statements declare none of the names that light blocks have for themselves. -/
theorem ownCode_apart {p : Permutation} {part : Part} (member : part ∈ ownCode p) :
    ∀ d ∈ part.own, d.name ∉ LightBlock.scratchNames .fragment true := by
  have apart : (part.own.all fun d => !(LightBlock.scratchNames .fragment true).contains d.name) =
      true := by
    simp only [ownCode, List.mem_cons, List.not_mem_nil, or_false] at member
    rcases member with rfl | rfl | rfl | rfl | rfl | rfl | rfl | rfl | rfl
    · rfl
    · rfl
    · unfold ambient ambientTerm
      cases p.vertexLighting <;> rfl
    · rfl
    · rfl
    · unfold colorOutput
      split <;> rfl
    · rfl
    · rfl
    · unfold alphaOutput
      split <;> rfl
  simpa using apart

end Plan

namespace Library

variable {library : Library} {settings : Settings} {p : Permutation} {e : Emission}
  {pair : StagePair} {stage : Stage} {b : LightBlock} {part : Part} {n : String}

/-- Whether the light block of a stage is shadowed. -/
def shadowed (library : Library) (p : Permutation) (stage : Stage) : Bool :=
  Plan.shadowed (library.derived p) (library.select p) stage

/-- A light block keeps the names that the light blocks of its stage have for themselves. -/
theorem keeps_of_lights (member : Part.lights b ∈ library.parts settings p stage)
    (scratch : n ∈ LightBlock.scratchNames stage (library.shadowed p stage)) : b.keeps n = true := by
  obtain ⟨-, light, -, rfl⟩ := (Plan.listed member).lights_eq
  exact LightBlock.keeps_scratchNames scratch

/-- Only a snippet of another role has a stage declare the name of a scratch value. -/
theorem exists_snippet_of_declaration {d : Parameter}
    (member : part ∈ library.parts settings p stage) (hd : d ∈ part.declarations)
    (scratch : d.name ∈ LightBlock.scratchNames stage (library.shadowed p stage)) :
    ∃ s, part.snippet? = some s ∧ s.role ≠ .light ∧ d ∈ s.parameters := by
  cases Plan.listed member with
  | job other selected => exact ⟨_, rfl, role_of_select selected ▸ other, hd⟩
  | lights on found =>
    have handed := LightBlock.not_keeps_of_declaration hd
    rw [keeps_of_lights member scratch] at handed
    cases handed
  | code own =>
    obtain ⟨parameters, statements, rfl⟩ := Plan.exists_code_of_own own
    exact absurd (LightBlock.scratchNames_subset _ _ scratch) (Plan.ownCode_apart own d hd)

/-- What a snippet of another role declares, the stage declares. -/
theorem exists_declaration_of_snippet {s : Snippet} {d : Parameter}
    (member : part ∈ library.parts settings p stage) (written : part.snippet? = some s)
    (other : s.role ≠ .light) (hd : d ∈ s.parameters) :
    d ∈ library.declarations settings p stage := by
  refine List.mem_flatMap.2 ⟨part, member, ?_⟩
  cases part with
  | snippet s =>
    cases written
    exact hd
  | code parameters statements => cases written
  | lights b =>
    cases written
    obtain ⟨-, light, selected, rfl⟩ := (Plan.listed member).lights_eq
    exact absurd (role_of_select selected) other

/-- The scope of an emitted light block. -/
theorem exists_scope_of_lights (composed : library.stages settings p = .ok pair)
    (member : Part.lights b ∈ library.parts settings p stage) :
    ∃ inner, b.scope = .ok inner ∧ DistinctNames inner.locals := by
  obtain ⟨xs, text, yields, -⟩ := StageSource.part_occurs_addAll member (source_made composed stage)
  obtain ⟨inner, inside, -⟩ := Part.yields_lights_iff.1 yields
  exact ⟨inner, inside, (distinctNames_append.1 (LightBlock.scope_coherent inside).distinct).2.1⟩

/-- The names in the lists of a stage are those of its declarations. -/
theorem exists_listed_iff_declaration (composed : library.stages settings p = .ok pair) :
    (∃ k, ∃ d ∈ (Interface.ofScopes pair.vertex.scope pair.fragment.scope).listing stage k,
        d.name = n) ↔
      ∃ d ∈ library.declarations settings p stage, d.name = n := by
  rw [← exists_declared_iff_declaration composed]
  simp only [Interface.mem_declared_iff]
  constructor
  · rintro ⟨k, d, hd, name⟩
    exact ⟨d, ⟨k, hd⟩, name⟩
  · rintro ⟨d, ⟨k, hd⟩, name⟩
    exact ⟨k, d, hd, name⟩

/--
Whatever the light snippet declares, the names that a light block has for itself do not get out of it: a
list of the block's stage holds such a name only if a snippet of another role declares it there. The
locals of the block have names of their own.
-/
theorem scratch_listed_iff (built : library.build settings p = .ok e)
    (member : Part.lights b ∈ library.parts settings p stage) :
    (∀ n ∈ LightBlock.scratchNames stage (library.shadowed p stage),
      (∃ k, ∃ d ∈ e.interface.listing stage k, d.name = n) ↔
        ∃ part ∈ library.parts settings p stage, ∃ s, part.snippet? = some s ∧ s.role ≠ .light ∧
          ∃ d ∈ s.parameters, d.name = n) ∧
      ∃ inner, b.scope = .ok inner ∧ DistinctNames inner.locals := by
  obtain ⟨pair, composed, rfl⟩ := build_eq_ok_iff.1 built
  refine ⟨fun n scratch => ?_, exists_scope_of_lights composed member⟩
  refine (exists_listed_iff_declaration composed).trans ⟨?_, ?_⟩
  · rintro ⟨d, hd, rfl⟩
    obtain ⟨part, planned, declared⟩ := List.mem_flatMap.1 hd
    obtain ⟨s, written, other, hs⟩ := exists_snippet_of_declaration planned declared scratch
    exact ⟨part, planned, s, written, other, d, hs, rfl⟩
  · rintro ⟨part, planned, s, written, other, d, hd, name⟩
    exact ⟨d, exists_declaration_of_snippet planned written other hd, name⟩

/-- The lit surface with a light snippet that declares everything that a light block has for itself. -/
def hoarding : Library :=
  let light := exchange .light "phong" [.lightPosition] [.diffuseColor, .specularColor]
    [.lightColor, .diffuseColor]
  let index := (LightBlock.scratchValue "i" .int).withQualifier .inout
  let sums := ["diffuse_colors_sum", "specular_colors_sum", "shadow_values"].map
    (LightBlock.scratchValue · .vec3)
  ⟨litSurface.snippets.dropLast ++ [(index :: sums).foldl Snippet.declaring light]⟩

/-- Nothing of it is listed for the fragment stage. -/
theorem hoarding_unlisted :
    ∃ e b, hoarding.build twoAndTwo surfaceColor = .ok e ∧
      Part.lights b ∈ hoarding.parts twoAndTwo surfaceColor .fragment ∧
      (∀ n ∈ LightBlock.scratchNames .fragment true, (∃ d ∈ b.light.parameters, d.name = n) ∧
        ∀ k, ∀ d ∈ e.interface.listing .fragment k, d.name ≠ n) ∧
      ∃ inner, b.scope = .ok inner ∧ DistinctNames inner.locals := by
  obtain ⟨e, built⟩ : ∃ e, hoarding.build twoAndTwo surfaceColor = .ok e :=
    exists_of_isOk (by decide +kernel)
  obtain ⟨b, member, check⟩ : ∃ b, Part.lights b ∈ hoarding.parts twoAndTwo surfaceColor .fragment ∧
      (∀ n ∈ LightBlock.scratchNames .fragment true, ∃ d ∈ b.light.parameters, d.name = n : Bool) =
        true :=
    exists_of_someLights _ (by decide +kernel)
  have declared := of_decide_eq_true check
  have shadowed : hoarding.shadowed surfaceColor .fragment = true := by decide +kernel
  obtain ⟨listed, locals⟩ := scratch_listed_iff built member
  rw [shadowed] at listed
  refine ⟨e, b, built, member, fun n hn => ⟨declared n hn, fun k d hd name => ?_⟩, locals⟩
  obtain ⟨part, planned, s, written, other, c, hc, same⟩ := (listed n hn).1 ⟨k, d, hd, name⟩
  have apart : ∀ part ∈ hoarding.parts twoAndTwo surfaceColor .fragment, ∀ s ∈ part.snippet?,
      s.role ≠ .light → ∀ c ∈ s.parameters, c.name ∉ LightBlock.scratchNames .fragment true := by
    decide +kernel
  exact apart part planned s written other c hc (same ▸ hn)

end Library

end ShaderComposition
