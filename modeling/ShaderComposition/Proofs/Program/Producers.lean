import ShaderComposition.Proofs.Composition.Writing
import ShaderComposition.Proofs.Interface.NameSpaces
import ShaderComposition.Proofs.Program.Linkage
import ShaderComposition.Proofs.Program.Occurrence

/-!
# Producers come first

A stage that was put together holds one entry for each name that its parts declare. The entry is the
first declaration of the name, so a value is produced before anything reads or changes it, and what a
stage is supplied with from outside nothing in the stage writes to (`StageSource.Holds.not_supplied`).
-/

namespace ShaderComposition

/-- An entry stands for the declarations of its name. -/
structure StandsFor (e : Parameter) (ds : List Parameter) : Prop where
  /-- It has the shape of all of them. -/
  shape : ∀ d ∈ ds, e.shape = d.shape
  /-- It is read just where all of them are readings. -/
  input_iff : e.qualifier = .input ↔ ∀ d ∈ ds, d.qualifier = .input
  /-- Otherwise it is produced, and the first of them produces it. -/
  output : e.qualifier ≠ .input → e.qualifier = .output ∧
    ∃ first, ds.head? = some first ∧ first.qualifier = .output

/-- The parameters of a stage whose values come from outside the program. -/
def Interface.supplied (i : Interface) : Stage → List Parameter
  | .vertex => i.attributeParameters ++ i.vertexUniforms
  | .fragment => i.fragmentUniforms

/-- A stage of a program that was put together. -/
def StagePair.source (pair : StagePair) : Stage → StageSource
  | .vertex => pair.vertex
  | .fragment => pair.fragment

/-- What a stage is supplied with, it reads. -/
theorem StagePair.read_of_supplied {pair : StagePair} {stage : Stage} {u : Parameter}
    (h : u ∈ (Interface.ofScopes pair.vertex.scope pair.fragment.scope).supplied stage) :
    u ∈ (pair.source stage).scope.globals ∧ u.qualifier = .input := by
  cases stage with
  | vertex =>
    rcases List.mem_append.1 h with bound | uniform
    · obtain ⟨hu, input, -⟩ := Interface.mem_attributeParameters.1 bound
      exact ⟨hu, input⟩
    · obtain ⟨hu, input, -⟩ := Interface.mem_vertexUniforms.1 uniform
      exact ⟨hu, input⟩
  | fragment =>
    obtain ⟨hu, input, -⟩ := Interface.mem_fragmentUniforms.1 h
    exact ⟨hu, input⟩

namespace StageSource

variable {s : StageSource} {stage : Stage} {ds : List Parameter} {d e u : Parameter}

/-- The entry of a name stands for all declarations of the name. -/
theorem Holds.standsFor (h : s.Holds stage ds) (he : e ∈ s.scope.globals) :
    StandsFor e (named ds e.name) := by
  have first : (named ds e.name).head? = some e := by
    rw [head?_named, ← h.summary.first]
    exact (firstNamed_eq_some_iff h.distinct).2 ⟨he, rfl⟩
  constructor
  · intro d hd
    obtain ⟨hd, same⟩ := mem_named.1 hd
    exact (h.summary.covers_of_name h.distinct he hd same.symm).shape
  · constructor
    · intro input d hd
      obtain ⟨hd, same⟩ := mem_named.1 hd
      exact h.readOnly he input d hd same
    · intro read
      exact read e (mem_named.2 ⟨h.mem he, rfl⟩)
  · intro produced
    have settled := h.coherent.settled e (List.mem_append_left _ he)
    have output : e.qualifier = .output := by
      cases written : e.qualifier with
      | input => exact absurd written produced
      | output => rfl
      | inout => exact absurd written settled
    exact ⟨output, e, first, output⟩

/-- A declared name has one entry, which stands for its declarations. -/
theorem Holds.sole_entry (h : s.Holds stage ds) (hd : d ∈ ds) :
    ∃ e, named (s.scope.globals ++ s.scope.locals) d.name = [e] ∧ StandsFor e (named ds d.name) := by
  obtain ⟨e, he, same, -⟩ := h.entry hd
  rw [h.noLocals, List.append_nil, ← same]
  exact ⟨e, h.distinct.named_eq he, h.standsFor he⟩

/-- What a declaration of the stage produces or changes is none of the stage's readings. -/
theorem Holds.name_ne_of_read (h : s.Holds stage ds) (hd : d ∈ ds) (produced : d.qualifier ≠ .input)
    (hu : u ∈ s.scope.globals) (read : u.qualifier = .input) : u.name ≠ d.name :=
  fun same => produced (h.readOnly hu read d hd same.symm)

end StageSource

/-- A part declares whatever its snippet declares and it does not keep to itself. -/
theorem Part.mem_declarations {lengths : ArrayLengths} {part : Part} {xs : List Parameter}
    {text : String} {snippet : Snippet} {d : Parameter}
    (apart : ∀ b, part = .lights b → ∀ d ∈ b.outputs, d.name ∉ LightBlock.resultNames)
    (yields : part.yields lengths = .ok (xs, text)) (written : part.snippet? = some snippet)
    (hd : d ∈ snippet.parameters) (outside : ∀ l ∈ part.locals, l.name ≠ d.name) :
    d ∈ part.declarations := by
  cases part with
  | snippet s =>
    cases written
    exact hd
  | code parameters statements => cases written
  | lights block =>
    cases written
    obtain ⟨inner, inside, -⟩ := yields_lights_iff.1 yields
    have asked : d ∈ block.inputs ++ block.light.parameters ++ block.outputs :=
      List.mem_append_left _ (List.mem_append_right _ hd)
    have handed : ¬ block.keeps d.name = true := by
      rw [LightBlock.keeps_iff_local (apart block rfl) inside asked, ← locals_lights inside]
      rintro ⟨l, hl, same⟩
      exact outside l hl same
    exact List.mem_filter.2 ⟨asked, by simpa using handed⟩

namespace Library

variable {library : Library} {settings : Settings} {p : Permutation} {e : Emission} {pair : StagePair}

theorem source_made (h : library.stages settings p = .ok pair) (stage : Stage) :
    StageSource.ofParts (library.derived p).arrayLengths stage (library.parts settings p stage) =
      .ok (pair.source stage) := by
  cases stage with
  | vertex => exact (stages_made h).1
  | fragment => exact (stages_made h).2

theorem source_holds (h : library.stages settings p = .ok pair) (stage : Stage) :
    (pair.source stage).Holds stage (library.declarations settings p stage) :=
  StageSource.holds_of_plan (source_made h stage)

/-- What the snippet of a part declares outside the light block, the stage declares. -/
theorem mem_declarations_of_snippet (h : library.stages settings p = .ok pair) {stage : Stage}
    {part : Part} {snippet : Snippet} {d : Parameter}
    (member : part ∈ library.parts settings p stage) (written : part.snippet? = some snippet)
    (hd : d ∈ snippet.parameters) (outside : ∀ l ∈ part.locals, l.name ≠ d.name) :
    d ∈ library.declarations settings p stage := by
  obtain ⟨xs, text, yields, -⟩ := StageSource.part_occurs_addAll member (source_made h stage)
  have apart (b : LightBlock) (same : part = .lights b) :=
    (Plan.listed (same ▸ member : Part.lights b ∈ library.parts settings p stage)).outputs_apart
  exact List.mem_flatMap.2 ⟨part, member, Part.mem_declarations apart yields written hd outside⟩

/--
A stage of a program that was built holds one entry for each name that it declares, and no other. The
entry has the shape of all declarations of the name; it is read if all of them are readings, and
otherwise it is produced, by the first of them. So what a snippet of the stage produces or changes is
no uniform and no attribute of the stage, unless it stays inside the light block.
-/
theorem producers_first (built : library.build settings p = .ok e) :
    ∃ pair, library.stages settings p = .ok pair ∧
      e.interface = .ofScopes pair.vertex.scope pair.fragment.scope ∧
      ∀ stage,
        let scope := (pair.source stage).scope
        let ds := library.declarations settings p stage
        (∀ d ∈ ds, ∃ x, named (scope.globals ++ scope.locals) d.name = [x] ∧
            StandsFor x (named ds d.name)) ∧
          (∀ x ∈ scope.globals ++ scope.locals, x ∈ ds) ∧
          ∀ part ∈ library.parts settings p stage, ∀ snippet, part.snippet? = some snippet →
            ∀ d ∈ snippet.parameters, d.qualifier ≠ .input →
              (∀ l ∈ part.locals, l.name ≠ d.name) →
              ∀ u ∈ e.interface.supplied stage, u.name ≠ d.name := by
  obtain ⟨pair, composed, rfl⟩ := build_eq_ok_iff.1 built
  refine ⟨pair, composed, rfl, fun stage => ?_⟩
  have holds := source_holds composed stage
  refine ⟨fun d hd => holds.sole_entry hd, ?_, ?_⟩
  · intro x hx
    rw [holds.noLocals, List.append_nil] at hx
    exact holds.mem hx
  · intro part member snippet written d hd produced outside u hu
    have declared := mem_declarations_of_snippet composed member written hd outside
    obtain ⟨global, read⟩ := StagePair.read_of_supplied hu
    exact holds.name_ne_of_read declared produced global read

/--
The albedo of a lit surface is produced, changed, and read by the light block, in this order; it is not
supplied from outside.
-/
theorem litSurface_albedo_produced :
    ∃ e pair x, litSurface.build twoAndTwo surfaceColor = .ok e ∧
      litSurface.stages twoAndTwo surfaceColor = .ok pair ∧
      (named (litSurface.declarations twoAndTwo surfaceColor .fragment) "albedo").map (·.qualifier) =
        [.output, .inout, .input] ∧
      named ((pair.source .fragment).scope.globals ++ (pair.source .fragment).scope.locals) "albedo" =
        [x] ∧
      x.qualifier = .output ∧
      ∀ u ∈ e.interface.supplied .fragment, u.name ≠ "albedo" := by
  obtain ⟨e, built⟩ : ∃ e, litSurface.build twoAndTwo surfaceColor = .ok e :=
    exists_of_isOk (by decide +kernel)
  obtain ⟨pair, composed, -, stages⟩ := producers_first built
  have qualifiers :
      (named (litSurface.declarations twoAndTwo surfaceColor .fragment) "albedo").map (·.qualifier) =
        [.output, .inout, .input] := by decide +kernel
  have declared : ∃ d ∈ litSurface.declarations twoAndTwo surfaceColor .fragment,
      d.name = "albedo" ∧ d.qualifier ≠ .input := by decide +kernel
  have changed : ∃ part ∈ litSurface.parts twoAndTwo surfaceColor .fragment,
      ∃ snippet ∈ part.snippet?, ∃ c ∈ snippet.parameters,
        c.name = "albedo" ∧ c.qualifier ≠ .input ∧ ∀ l ∈ part.locals, l.name ≠ c.name := by
    decide +kernel
  obtain ⟨d, hd, name, produced⟩ := declared
  obtain ⟨part, member, snippet, written, c, hc, same, writes, outside⟩ := changed
  obtain ⟨entries, -, unsupplied⟩ := stages .fragment
  obtain ⟨x, sole, stands⟩ := entries d hd
  rw [name] at sole stands
  have settled : x.qualifier ≠ .input := fun input =>
    produced (stands.input_iff.1 input d (mem_named.2 ⟨hd, name⟩))
  refine ⟨e, pair, x, built, composed, qualifiers, sole, (stands.output settled).1, ?_⟩
  intro u hu
  rw [← same]
  exact unsupplied part member snippet written c hc writes outside u hu

end Library

end ShaderComposition
