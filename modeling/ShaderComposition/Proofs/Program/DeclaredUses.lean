import ShaderComposition.Proofs.Composition.OwnParts
import ShaderComposition.Proofs.Interface.Accounting
import ShaderComposition.Proofs.Program.LightBounds
import ShaderComposition.Proofs.Program.Producers

/-!
# Which used variables are declared

The statements of the program's own use variables by name. What is declared beside them reaches the
text, as a parameter of the interface or as a local of the light block (`Part.declared_of_own`), so all
of these variables are declared except for two: a light block adds up the results of its light snippet
whether or not the snippet has them. `Library.declares_used_iff` says when these two are declared.
-/

namespace ShaderComposition

open Vocabulary (spelling)

namespace Statement

/-- The text of a statement is in the text of the statements. -/
theorem occurs_lines {s : Statement} {statements : List Statement} (hs : s ∈ statements)
    (indent : Nat) : Occurs s.text (lines indent statements) := by
  have line : Occurs s.text (Text.line indent s.text) := ((Occurs.refl s.text).right _).left _
  exact .join (List.mem_map_of_mem hs) line

end Statement

namespace LightBlock

variable {b : LightBlock} {s : Scope} {l : Parameter} {n : String}

/-- The text of the block declares its locals. -/
theorem local_occurs_text {locals : List Parameter} (hl : l ∈ locals) (lengths : ArrayLengths) :
    Occurs (l.declaration lengths) (b.text locals lengths) := by
  have line : Occurs (l.declaration lengths) (Text.line 2 (l.declaration lengths ++ ";")) :=
    (((Occurs.refl _).left _).right _).left _
  unfold text
  iterate 3 apply Occurs.left
  apply Occurs.right
  exact .join (List.mem_map_of_mem hl) line

/-- What the block adds up in the loop is in its text. -/
theorem accumulate_occurs_text {statement : Statement} (hs : statement ∈ b.accumulate)
    (locals : List Parameter) (lengths : ArrayLengths) :
    Occurs statement.text (b.text locals lengths) := by
  have inside : Occurs statement.text b.loopText := by
    unfold loopText
    iterate 2 apply Occurs.left
    apply Occurs.right
    exact Statement.occurs_lines hs 3
  exact (inside.right _).left _

/-- A local that is no scratch value is one of the parameters that the block is asked to declare. -/
theorem mem_asked_of_local (h : b.scope = .ok s) (hl : l ∈ s.locals)
    (other : ∀ d ∈ b.scratch, d.name ≠ l.name) :
    l ∈ b.inputs ++ b.light.parameters ++ b.outputs := by
  have found := (scope_coherent h).find?_eq (List.mem_append_right _ hl)
  rw [scope_find? h, firstNamed_eq_none.2 other, Option.none_or] at found
  exact mem_of_firstNamed found

end LightBlock

namespace Part

variable {p : Permutation} {scale : Float32} {select : Selection} {stage : Stage}
  {lengths : ArrayLengths} {part : Part} {xs : List Parameter} {text n : String} {d l : Parameter}

/-- The text of a part declares what the part keeps to itself. -/
theorem local_occurs (yields : part.yields lengths = .ok (xs, text)) (hl : l ∈ part.locals) :
    Occurs (l.declaration lengths) text := by
  cases part with
  | snippet s => cases hl
  | code parameters statements => cases hl
  | lights block =>
    obtain ⟨inner, inside, -, rfl⟩ := yields_lights_iff.1 yields
    rw [locals_lights inside] at hl
    exact LightBlock.local_occurs_text hl lengths

/-- What a part declares beside its own statements stays in the part or reaches the stage. -/
theorem declared_of_own (listed : Plan.Listed p scale select stage part)
    (yields : part.yields lengths = .ok (xs, text)) (hd : d ∈ part.own) :
    (∃ l ∈ part.locals, l.name = d.name) ∨ d ∈ part.declarations := by
  cases part with
  | snippet s => cases hd
  | code parameters statements => exact .inr hd
  | lights block =>
    obtain ⟨inner, inside, -⟩ := yields_lights_iff.1 yields
    rw [locals_lights inside]
    have apart := listed.outputs_apart
    -- the inputs and outputs are asked for together with what the light snippet declares
    have asked (hc : d ∈ block.inputs ++ block.light.parameters ++ block.outputs) :
        (∃ l ∈ inner.locals, l.name = d.name) ∨ d ∈ block.declarations := by
      by_cases kept : block.keeps d.name = true
      · exact .inl ((LightBlock.keeps_iff_local apart inside hc).1 kept)
      · exact .inr (List.mem_filter.2 ⟨hc, by simpa using kept⟩)
    rcases List.mem_append.1 hd with before | output
    · rcases List.mem_append.1 before with scratch | input
      · exact .inl (LightBlock.exists_local_of_scratch apart inside scratch)
      · exact asked (List.mem_append_left _ (List.mem_append_left _ input))
    · exact asked (List.mem_append_right _ output)

/-- A light block declares a result inside if its light snippet declares it, and only then. -/
theorem exists_local_result_iff {b : LightBlock} (listed : Plan.Listed p scale select stage (.lights b))
    (yields : (Part.lights b).yields lengths = .ok (xs, text)) (result : n ∈ LightBlock.resultNames) :
    (∃ l ∈ (Part.lights b).locals, l.name = n) ↔ ∃ d ∈ b.light.parameters, d.name = n := by
  obtain ⟨inner, inside, -⟩ := yields_lights_iff.1 yields
  rw [locals_lights inside]
  constructor
  · rintro ⟨l, hl, rfl⟩
    have apart (d : Parameter) (hd : d ∈ (Part.lights b).own) : d.name ≠ l.name := fun same =>
      listed.apart hd (same ▸ result)
    have asked := LightBlock.mem_asked_of_local inside hl fun d hd =>
      apart d (List.mem_append_left _ (List.mem_append_left _ hd))
    rcases List.mem_append.1 asked with before | output
    · rcases List.mem_append.1 before with input | parameter
      · exact absurd rfl (apart l (List.mem_append_left _ (List.mem_append_right _ input)))
      · exact ⟨l, parameter, rfl⟩
    · exact absurd rfl (apart l (List.mem_append_right _ output))
  · rintro ⟨d, hd, rfl⟩
    have asked : d ∈ b.inputs ++ b.light.parameters ++ b.outputs :=
      List.mem_append_left _ (List.mem_append_right _ hd)
    have kept := LightBlock.keeps_iff_local listed.outputs_apart inside asked
    exact kept.1 (LightBlock.keeps_iff.2 (.inr result))

end Part

/-- A parameter of the interface, or one that a part of the stage keeps, is declared in the text. -/
def Emission.Declares (e : Emission) (lengths : ArrayLengths) (stage : Stage)
    (kept : List Parameter) (n : String) : Prop :=
  ∃ d ∈ e.interface.declared stage ++ kept, d.name = n ∧ Occurs (d.declaration lengths) (e.text stage)

namespace Library

variable {library : Library} {settings : Settings} {p : Permutation} {e : Emission}
  {pair : StagePair} {stage : Stage} {part : Part} {n : String}

/-- The names that a stage declares in the interface are those of its declarations. -/
theorem exists_declared_iff_declaration (h : library.stages settings p = .ok pair) :
    (∃ d ∈ (Interface.ofScopes pair.vertex.scope pair.fragment.scope).declared stage, d.name = n) ↔
      ∃ d ∈ library.declarations settings p stage, d.name = n := by
  have holds := source_holds h stage
  have scope : Interface.scopeOf pair.vertex.scope pair.fragment.scope stage =
      (pair.source stage).scope := by
    cases stage <;> rfl
  rw [Interface.exists_declared_iff, scope, holds.noLocals, List.append_nil]
  constructor
  · rintro ⟨d, hd, name⟩
    exact ⟨d, holds.mem hd, name⟩
  · rintro ⟨d, hd, name⟩
    obtain ⟨x, hx, same, -⟩ := holds.entry hd
    exact ⟨x, hx, same.trans name⟩

/-- The text of a part of a stage is in the text of the stage. -/
theorem part_occurs_text (composed : library.stages settings p = .ok pair) (i : Interface)
    (member : part ∈ library.parts settings p stage) :
    ∃ xs text, part.yields p.arrayLengths = .ok (xs, text) ∧
      Occurs text ((Emission.ofInterface (library.derived p) i pair.vertex.main
        pair.fragment.main).text stage) := by
  have made := source_made composed stage
  rw [arrayLengths_derived] at made
  obtain ⟨xs, text, yields, occurs⟩ := StageSource.part_occurs_addAll member made
  refine ⟨xs, text, yields, occurs.trans ?_⟩
  cases stage with
  | vertex => exact ((Emission.main_occurs_mainFunction ..).right _).right _
  | fragment => exact ((Emission.main_occurs_mainFunction ..).right _).right _

/-- Declared in the text are the names that a part keeps to itself and those that the stage has. -/
theorem declares_iff_named (composed : library.stages settings p = .ok pair)
    (member : part ∈ library.parts settings p stage) :
    (Emission.ofInterface (library.derived p) (.ofScopes pair.vertex.scope pair.fragment.scope)
        pair.vertex.main pair.fragment.main).Declares p.arrayLengths stage part.locals n ↔
      (∃ l ∈ part.locals, l.name = n) ∨ ∃ d ∈ library.declarations settings p stage, d.name = n := by
  constructor
  · rintro ⟨d, hd, name, -⟩
    rcases List.mem_append.1 hd with shared | kept
    · exact .inr ((exists_declared_iff_declaration composed).1 ⟨d, shared, name⟩)
    · exact .inl ⟨d, kept, name⟩
  · rintro (⟨l, hl, name⟩ | declared)
    · obtain ⟨xs, text, yields, occurs⟩ := part_occurs_text composed
        (.ofScopes pair.vertex.scope pair.fragment.scope) member
      exact ⟨l, List.mem_append_right _ hl, name, (Part.local_occurs yields hl).trans occurs⟩
    · obtain ⟨d, hd, name⟩ := (exists_declared_iff_declaration composed).2 declared
      have occurs := Emission.declaration_occurs_text (library.derived p) pair.vertex.main
        pair.fragment.main hd
      rw [arrayLengths_derived] at occurs
      exact ⟨d, List.mem_append_left _ hd, name, occurs.front⟩

/--
A variable that the program's own statements use is declared in the text of the stage, by the interface
or inside the light block that uses it, unless it is a result that neither the light snippet nor
anything else in the stage declares.
-/
theorem declares_used_iff (built : library.build settings p = .ok e)
    (member : part ∈ library.parts settings p stage) (used : n ∈ part.uses) :
    e.Declares p.arrayLengths stage part.locals n ↔
      ∀ b, part = .lights b → n ∈ LightBlock.resultNames →
        (∃ d ∈ b.light.parameters, d.name = n) ∨
          ∃ d ∈ library.declarations settings p stage, d.name = n := by
  have listed := Plan.listed member
  obtain ⟨pair, composed, rfl⟩ := build_eq_ok_iff.1 built
  obtain ⟨xs, text, yields, -⟩ := StageSource.part_occurs_addAll member (source_made composed stage)
  rw [declares_iff_named composed member]
  constructor
  · rintro named b rfl result
    exact named.imp_left (Part.exists_local_result_iff listed yields result).1
  · intro supplied
    rcases listed.used used with ⟨d, hd, rfl⟩ | result
    · have own := Part.declared_of_own listed yields hd
      exact own.imp_right fun reached => ⟨d, List.mem_flatMap.2 ⟨part, member, reached⟩, rfl⟩
    · cases part with
      | snippet s => cases result
      | code parameters statements => cases result
      | lights b =>
        exact (supplied b rfl result).imp_left (Part.exists_local_result_iff listed yields result).2

/-- The results that a lit surface adds up are declared in the light block of either stage. -/
theorem litSurface_results_declared :
    ∃ e, litSurface.build twoAndTwo surfaceColor = .ok e ∧
      ∀ use ∈ [(Stage.vertex, "diffuse_color"), (.fragment, "diffuse_color"),
          (.fragment, "specular_color")],
        ∃ part ∈ litSurface.parts twoAndTwo surfaceColor use.1, use.2 ∈ part.uses ∧
          e.Declares surfaceColor.arrayLengths use.1 part.locals use.2 := by
  obtain ⟨e, built⟩ : ∃ e, litSurface.build twoAndTwo surfaceColor = .ok e :=
    exists_of_isOk (by decide +kernel)
  refine ⟨e, built, fun use member => ?_⟩
  have written : ∀ use ∈ [(Stage.vertex, "diffuse_color"), (.fragment, "diffuse_color"),
      (.fragment, "specular_color")],
      ∃ part ∈ litSurface.parts twoAndTwo surfaceColor use.1, use.2 ∈ part.uses ∧
        ∃ snippet ∈ part.snippet?, ∃ d ∈ snippet.parameters, d.name = use.2 := by
    decide +kernel
  obtain ⟨part, planned, used, snippet, found, declared⟩ := written use member
  refine ⟨part, planned, used, (declares_used_iff built planned used).2 ?_⟩
  rintro b rfl -
  cases found
  exact .inl declared

/-- A light snippet that has a diffuse result only. -/
def lambert : Library :=
  ⟨[exchange .light "lambert" [] [.diffuseColor] []]⟩

/-- The color pass of a surface that one light falls on. -/
def lambertColor : Permutation :=
  .resolve (manyLights 1) { lighting := some "lambert" }
    { dialect := .glsl330, purpose := .color, lights := 1 }

/-- The specular result is added up though nothing declares it. -/
theorem lambert_specular_undeclared :
    ∃ e b, lambert.build (manyLights 1) lambertColor = .ok e ∧
      Part.lights b ∈ lambert.parts (manyLights 1) lambertColor .fragment ∧
      "specular_color" ∈ (Part.lights b).uses ∧
      Occurs "specular_colors_sum += specular_color;" e.fragmentText ∧
      ∀ d ∈ e.interface.declared .fragment ++ (Part.lights b).locals,
        d.name ≠ "specular_color" := by
  obtain ⟨e, built⟩ : ∃ e, lambert.build (manyLights 1) lambertColor = .ok e :=
    exists_of_isOk (by decide +kernel)
  have undeclared : ¬ ∃ c ∈ lambert.declarations (manyLights 1) lambertColor .fragment,
      c.name = "specular_color" := by
    decide +kernel
  let sum : Statement := .increase LightBlock.specularSum (Catalog.value SharedValue.specularColor)
  obtain ⟨b, member, check⟩ : ∃ b,
      Part.lights b ∈ lambert.parts (manyLights 1) lambertColor .fragment ∧
        (sum ∈ b.accumulate ∧ "specular_color" ∈ b.uses ∧
          ∀ l ∈ (Part.lights b).locals, l.name ≠ "specular_color" : Bool) = true :=
    exists_of_someLights _ (by decide +kernel)
  obtain ⟨added, used, unkept⟩ := of_decide_eq_true check
  obtain ⟨pair, composed, rfl⟩ := build_eq_ok_iff.1 built
  refine ⟨_, b, built, member, used, ?_, fun d hd => ?_⟩
  · obtain ⟨xs, text, yields, occurs⟩ := part_occurs_text composed
      (.ofScopes pair.vertex.scope pair.fragment.scope) member
    obtain ⟨inner, -, -, rfl⟩ := Part.yields_lights_iff.1 yields
    exact (LightBlock.accumulate_occurs_text added inner.locals _).trans occurs
  · rcases List.mem_append.1 hd with shared | kept
    · exact fun name =>
        undeclared ((exists_declared_iff_declaration composed).1 ⟨d, shared, name⟩)
    · exact unkept d kept

end Library

end ShaderComposition
