import ShaderComposition.Proofs.Composition.LightCounts
import ShaderComposition.Proofs.Program.Linkage
import ShaderComposition.Proofs.Program.Occurrence

/-!
# Where a light loop ends

The light loop of the fragment stage with a constant end counts the lights of the stage, but the
arrays that it reads are no longer than the maximum of their size class. They may not even be the
stage's own: if the vertex stage produces a value of the name, the fragment stage takes that one in
the shape that it has there (`StageSource.declared_of_mem`).
-/

namespace ShaderComposition

open Vocabulary (spelling)

/-- The arrays that a light loop reads. -/
def lightArrays : List EngineUniform :=
  [.lightColors, .lightPositions]

theorem mem_lightArrays {a : EngineUniform} :
    a ∈ lightArrays ↔ a = .lightColors ∨ a = .lightPositions := by
  simp [lightArrays]

/-- Lighting declares an element of the arrays for each light. -/
theorem lightArray_elementCount {a : EngineUniform} (ha : a ∈ lightArrays) (lengths : ArrayLengths) :
    (Catalog.readBy a lightingSource).shape.elementCount lengths = lengths.length .lights := by
  rcases mem_lightArrays.1 ha with rfl | rfl <;> exact Nat.mul_one _

namespace LightBlock

variable {p : Permutation} {scale : Float32} {light : Snippet} {shadowed : Bool} {a : EngineUniform}
  {n : Nat}

/-- The block of the fragment stage asks its stage for the arrays. -/
theorem lightArray_mem_declarations (ha : a ∈ lightArrays) :
    Catalog.readBy a lightingSource ∈ (forStage p scale .fragment light shadowed).declarations := by
  have handed : (forStage p scale .fragment light shadowed).keeps (spelling a) = false := by
    rcases mem_lightArrays.1 ha with rfl | rfl <;> cases shadowed <;> rfl
  have asked : Catalog.readBy a lightingSource ∈
      (forStage p scale .fragment light shadowed).inputs := by
    refine List.mem_append_right _ ?_
    rcases mem_lightArrays.1 ha with rfl | rfl
    · exact List.mem_cons_self
    · exact List.mem_cons_of_mem _ List.mem_cons_self
  refine List.mem_filter.2 ⟨?_, ?_⟩
  · exact List.mem_append_left _ (List.mem_append_left _ asked)
  · exact congrArg not handed

/-- A constant end is the count of the stage's lights. -/
theorem forStage_count
    (h : (forStage p scale .fragment light shadowed).range.bound = .count n) :
    n = p.fragmentLights.toNat := by
  change (if p.has .dynamicLightsCount then LightBound.dynamic "y" else _) = _ at h
  split at h
  · cases h
  · exact (LightBound.count.inj h).symm

end LightBlock

namespace StageSource

variable {v f : StageSource} {vertex fragment : List Parameter} {c d : Parameter}

/--
A name of the fragment stage is declared once in its text: in the shape in which the vertex stage
produces it, or else in its own.
-/
theorem declared_of_mem (hv : v.Holds .vertex vertex) (hf : f.Holds .fragment fragment)
    (hc : c ∈ fragment) :
    ∃ d, (∀ x, x ∈ (Interface.ofScopes v.scope f.scope).declared .fragment ∧ x.name = c.name ↔ x = d) ∧
      (ReadOnly vertex c.name ∧ d.shape = c.shape ∨
        ¬ ReadOnly vertex c.name ∧ ∀ b ∈ vertex, b.name = c.name → b.shape = d.shape) := by
  have unique {x y : Parameter} := Interface.declared_fragment_unique (p := x) (q := y) hv.distinct
    hf.distinct hf.noLocals
  obtain ⟨own, hown, name, covers⟩ := hf.entry hc
  -- the vertex stage's entry takes the place of the stage's own only if it is produced there
  by_cases read : ReadOnly vertex c.name
  · have declared : own ∈ (Interface.ofScopes v.scope f.scope).declared .fragment :=
      (Interface.mem_declared_fragment hf.noLocals).2
        (.inl ⟨hown, hv.not_produces (name ▸ read)⟩)
    refine ⟨own, fun x => ⟨fun ⟨hx, same⟩ => unique hx declared (same.trans name.symm), ?_⟩, ?_⟩
    · rintro rfl
      exact ⟨declared, name⟩
    · exact .inl ⟨read, covers.shape⟩
  · obtain ⟨x, hx, same, produced⟩ : v.scope.Produces c.name := by
      rw [hv.produces_iff]
      exact not_readOnly.1 read
    have declared : x ∈ (Interface.ofScopes v.scope f.scope).declared .fragment :=
      (Interface.mem_declared_fragment hf.noLocals).2
        (.inr ⟨hx, produced, own, hown, name.trans same.symm⟩)
    refine ⟨x, fun y => ⟨fun ⟨hy, name⟩ => unique hy declared (name.trans same.symm), ?_⟩, ?_⟩
    · rintro rfl
      exact ⟨declared, same⟩
    · refine .inr ⟨read, fun b hb other => ?_⟩
      exact (hv.summary.covers_of_name hv.distinct hx hb (same.trans other.symm)).shape.symm

end StageSource

/-- What the fragment stage declares for an array has an element for each of `n` lights. -/
def HasRoom (vertex : List Parameter) (lengths : ArrayLengths) (a : EngineUniform) (n : Nat) : Prop :=
  (ReadOnly vertex (spelling a) ∧ n ≤ SizeClass.lights.maximum) ∨
    ∃ c ∈ vertex, c.name = spelling a ∧ c.qualifier ≠ .input ∧ n ≤ c.shape.elementCount lengths

/-- The array that is declared has room just where its own shape or the one handed over does. -/
theorem hasRoom_iff {vertex : List Parameter} {lengths : ArrayLengths} {a : EngineUniform} {n : Nat}
    {shape own : Shape} (lights : n ≤ lengths.length .lights ↔ n ≤ SizeClass.lights.maximum)
    (counted : shape = own → shape.elementCount lengths = lengths.length .lights)
    (h : ReadOnly vertex (spelling a) ∧ shape = own ∨
      ¬ ReadOnly vertex (spelling a) ∧ ∀ b ∈ vertex, b.name = spelling a → b.shape = shape) :
    n ≤ shape.elementCount lengths ↔ HasRoom vertex lengths a n := by
  rcases h with ⟨read, same⟩ | ⟨produced, shared⟩
  · rw [counted same, lights]
    refine ⟨fun room => .inl ⟨read, room⟩, ?_⟩
    rintro (⟨-, room⟩ | ⟨c, hc, name, produced, -⟩)
    · exact room
    · exact absurd (read c hc name) produced
  · constructor
    · intro room
      obtain ⟨c, hc, name, written⟩ := not_readOnly.1 produced
      exact .inr ⟨c, hc, name, written, (shared c hc name).symm ▸ room⟩
    · rintro (⟨read, -⟩ | ⟨c, hc, name, -, room⟩)
      · exact absurd read produced
      · exact shared c hc name ▸ room

namespace Library

variable {library : Library} {settings : Settings} {p : Permutation} {e : Emission} {b : LightBlock}
  {n : Nat}

theorem arrayLengths_derived (library : Library) (p : Permutation) :
    (library.derived p).arrayLengths = p.arrayLengths := by
  obtain ⟨features, same⟩ := (agrees_derived library p).rest
  rw [same]
  rfl

theorem fragmentLights_derived (library : Library) (p : Permutation) :
    (library.derived p).fragmentLights = p.fragmentLights := by
  obtain ⟨features, same⟩ := (agrees_derived library p).rest
  rw [same]

/-- The light block of the fragment stage counts the stage's lights and asks for the arrays. -/
theorem fragment_lights (member : Part.lights b ∈ library.parts settings p .fragment)
    (bound : b.range.bound = .count n) :
    p.fragmentLighting = true ∧ n = p.fragmentLights.toNat ∧ b.range.first = 0 ∧
      ∀ a ∈ lightArrays,
        Catalog.readBy a lightingSource ∈ library.declarations settings p .fragment := by
  obtain ⟨on, light, -, rfl⟩ := (Plan.listed member).lights_eq
  have lit : p.fragmentLighting = true := (agrees_derived library p).lighting.2.1 ▸ on
  have count := LightBlock.forStage_count bound
  rw [fragmentLights_derived] at count
  refine ⟨lit, count, rfl, fun a ha => ?_⟩
  apply List.mem_flatMap.2
  exact ⟨_, member, LightBlock.lightArray_mem_declarations ha⟩

/-- The text of the loop, and of the declaration of an array that it reads. -/
theorem loop_emitted (built : library.build settings p = .ok e)
    (member : Part.lights b ∈ library.parts settings p .fragment)
    (bound : b.range.bound = .count n) :
    Occurs (LightBlock.loopHead 0 n) e.fragmentText ∧
      ∀ a ∈ lightArrays, ∃ d,
        (∀ x, x ∈ e.interface.declared .fragment ∧ x.name = spelling a ↔ x = d) ∧
          Occurs (d.declaration p.arrayLengths) e.fragmentText ∧
          (ReadOnly (library.declarations settings p .vertex) (spelling a) ∧
              d.shape = (Catalog.readBy a lightingSource).shape ∨
            ¬ ReadOnly (library.declarations settings p .vertex) (spelling a) ∧
              ∀ c ∈ library.declarations settings p .vertex, c.name = spelling a → c.shape = d.shape) := by
  obtain ⟨-, -, first, asked⟩ := fragment_lights member bound
  obtain ⟨pair, composed, rfl⟩ := build_eq_ok_iff.1 built
  obtain ⟨vertex, fragment⟩ := stages_hold composed
  refine ⟨?_, fun a ha => ?_⟩
  · have made := (stages_made composed).2
    rw [StageSource.ofParts] at made
    have head := LightBlock.loopHead_occurs_addAll member bound made
    rw [first] at head
    exact ((head.trans (Emission.main_occurs_mainFunction ..)).right _).right _
  · obtain ⟨d, unique, shape⟩ := StageSource.declared_of_mem vertex fragment (asked a ha)
    refine ⟨d, unique, ?_, shape⟩
    have inside := Emission.declaration_occurs_text (library.derived p) pair.vertex.main
      pair.fragment.main ((unique d).2 rfl).1
    rw [arrayLengths_derived] at inside
    exact inside.front

/--
The light loop of the fragment stage with a constant end stays inside an array just where the array
that is declared has room: the lights do not pass the maximum of the size class, or the vertex stage
hands over an array that is long enough.
-/
theorem loop_within_array_iff {material : Material} {target : Target}
    (built : library.build settings (.resolve settings material target) = .ok e)
    (member : Part.lights b ∈ library.parts settings (.resolve settings material target) .fragment)
    (bound : b.range.bound = .count n) :
    let p := Permutation.resolve settings material target
    n = min settings.fragmentLights.toNat target.lights.toNat ∧
      Occurs (LightBlock.loopHead 0 n) e.fragmentText ∧
      ∀ a ∈ lightArrays, ∃ d,
        (∀ x, x ∈ e.interface.declared .fragment ∧ x.name = spelling a ↔ x = d) ∧
          Occurs (d.declaration p.arrayLengths) e.fragmentText ∧
          (n ≤ d.shape.elementCount p.arrayLengths ↔
            HasRoom (library.declarations settings p .vertex) p.arrayLengths a n) := by
  intro p
  obtain ⟨lit, count, -, -⟩ := fragment_lights member bound
  obtain ⟨head, arrays⟩ := loop_emitted built member bound
  refine ⟨count.trans (Permutation.resolve_fragmentLights ..), head, fun a ha => ?_⟩
  obtain ⟨d, unique, declared, shape⟩ := arrays a ha
  refine ⟨d, unique, declared, hasRoom_iff ?_ (fun own => ?_) shape⟩
  · rw [count, Permutation.fragmentLights_le_length_iff lit]
  · rw [own, lightArray_elementCount ha]

/-- A light snippet that reads nothing. -/
def phong : Library :=
  let result (v : SharedValue) := (Catalog.parameter v).withQualifier .output
  ⟨[(Snippet.plain .light "phong" "").declaring (result .diffuseColor)
      |>.declaring (result .specularColor)]⟩

/-- Settings that leave all lights of a target with this many to the fragment stage. -/
def manyLights (lights : UInt16) : Settings :=
  { fragmentLights := lights }

/-- A material that is lit by the snippet, and its target. -/
def phongColor (lights : UInt16) : Permutation :=
  .resolve (manyLights lights) { lighting := some "phong" }
    { dialect := .glsl330, purpose := .color, lights }

/-- A light block among the parts passes a check. -/
def someLights (check : LightBlock → Bool) (parts : List Part) : Bool :=
  parts.any fun
    | .lights b => check b
    | _ => false

theorem exists_of_someLights (check : LightBlock → Bool) {parts : List Part}
    (h : someLights check parts = true) : ∃ b, Part.lights b ∈ parts ∧ check b = true := by
  obtain ⟨part, member, passes⟩ := List.any_eq_true.1 h
  cases part with
  | snippet s => cases passes
  | code parameters statements => cases passes
  | lights b => exact ⟨b, member, passes⟩

/-- A light loop that ends after `n` lights is among the parts. -/
def loopsTo (parts : List Part) (n : Nat) : Bool :=
  parts.any fun
    | .lights b => b.range.bound = .count n
    | _ => false

theorem exists_of_loopsTo {parts : List Part} (h : loopsTo parts n = true) :
    ∃ b, Part.lights b ∈ parts ∧ b.range.bound = .count n := by
  obtain ⟨b, member, ends⟩ := exists_of_someLights (fun b => b.range.bound = .count n) h
  exact ⟨b, member, of_decide_eq_true ends⟩

/-- Four lights stay inside the arrays. -/
theorem phong_four_within :
    ∃ e b, phong.build (manyLights 4) (phongColor 4) = .ok e ∧
      Part.lights b ∈ phong.parts (manyLights 4) (phongColor 4) .fragment ∧
      b.range.bound = .count 4 ∧
      ∀ a ∈ lightArrays, ∃ d ∈ e.interface.declared .fragment, d.name = spelling a ∧
        4 ≤ d.shape.elementCount (phongColor 4).arrayLengths := by
  obtain ⟨e, built⟩ : ∃ e, phong.build (manyLights 4) (phongColor 4) = .ok e :=
    exists_of_isOk (by decide +kernel)
  obtain ⟨b, member, bound⟩ : ∃ b,
      Part.lights b ∈ phong.parts (manyLights 4) (phongColor 4) .fragment ∧
        b.range.bound = .count 4 :=
    exists_of_loopsTo (by decide +kernel)
  obtain ⟨-, -, arrays⟩ := loop_within_array_iff built member bound
  refine ⟨e, b, built, member, bound, fun a ha => ?_⟩
  obtain ⟨d, unique, -, within⟩ := arrays a ha
  obtain ⟨declared, name⟩ := (unique d).2 rfl
  have read : ∀ a ∈ lightArrays,
      ReadOnly (phong.declarations (manyLights 4) (phongColor 4) .vertex) (spelling a) := by
    decide +kernel
  exact ⟨d, declared, name, within.2 (.inl ⟨read a ha, by decide⟩)⟩

/-- Nine lights pass the ends of the arrays. -/
theorem phong_nine_beyond :
    ∃ e b, phong.build (manyLights 9) (phongColor 9) = .ok e ∧
      Part.lights b ∈ phong.parts (manyLights 9) (phongColor 9) .fragment ∧
      b.range.bound = .count 9 ∧ Occurs (LightBlock.loopHead 0 9) e.fragmentText ∧
      ∀ a ∈ lightArrays, ∃ d ∈ e.interface.declared .fragment, d.name = spelling a ∧
        d.shape.elementCount (phongColor 9).arrayLengths = 8 := by
  obtain ⟨e, built⟩ : ∃ e, phong.build (manyLights 9) (phongColor 9) = .ok e :=
    exists_of_isOk (by decide +kernel)
  obtain ⟨b, member, bound⟩ : ∃ b,
      Part.lights b ∈ phong.parts (manyLights 9) (phongColor 9) .fragment ∧
        b.range.bound = .count 9 :=
    exists_of_loopsTo (by decide +kernel)
  obtain ⟨head, arrays⟩ := loop_emitted built member bound
  refine ⟨e, b, built, member, bound, head, fun a ha => ?_⟩
  obtain ⟨d, unique, -, shape⟩ := arrays a ha
  obtain ⟨declared, name⟩ := (unique d).2 rfl
  have read : ∀ a ∈ lightArrays,
      ReadOnly (phong.declarations (manyLights 9) (phongColor 9) .vertex) (spelling a) := by
    decide +kernel
  obtain ⟨-, own⟩ := shape.resolve_right fun produced => produced.1 (read a ha)
  refine ⟨d, declared, name, ?_⟩
  rw [own, lightArray_elementCount ha]
  decide +kernel

end Library

end ShaderComposition
