import Mathlib.Data.List.Forall2
import ShaderComposition.Proofs.Program.LightBounds
import ShaderComposition.Proofs.Program.Naming

/-!
# Size constants and array lengths

The text of a stage opens with the counts of its arrays, one constant for each size class that it declares
a parameter of. The constants are written from one list of parameters and the declarations from several
others, but both take the counts from the same place: `constants_eq` reads the constants off the text,
`declaration_eq` the lengths of the arrays, and a length is a multiple of the constant of its size class.
-/

namespace ShaderComposition

open Vocabulary (spelling)

variable {lengths : ArrayLengths} {c : SizeClass} {declared : List Parameter}

/-- What stands behind the name of a value, given the count that each size class stands for. -/
def Shape.brackets (s : Shape) (count : SizeClass → Nat) : String :=
  match s.sizeClass with
  | .one => if 1 < s.scale.toNat then "[" ++ toString s.scale.toNat ++ "]" else ""
  | c => "[" ++ toString (count c * s.scale.toNat) ++ "]"

/-- A declaration gives the count of the size class times the scale. -/
theorem Parameter.declaration_eq (d : Parameter) (lengths : ArrayLengths) :
    d.declaration lengths =
      d.shape.type.spelling ++ " " ++ d.name ++ d.shape.brackets lengths.length := by
  obtain ⟨name, ⟨type, sizeClass, scale⟩, qualifier, source⟩ := d
  have one : lengths.length .one * scale.toNat = scale.toNat := Nat.one_mul _
  cases sizeClass <;> simp [declaration, Shape.isArray, Shape.brackets, Shape.elementCount, one]

/-- No array is so long that its length does not fit into a word. -/
theorem Shape.elementCount_lt (s : Shape) (lengths : ArrayLengths) :
    s.elementCount lengths < UInt32.size := by
  have few : lengths.length s.sizeClass ≤ 80 := by
    refine Nat.le_trans (lengths.length_le_maximum _) ?_
    cases s.sizeClass <;> decide
  have small : s.scale.toNat < 65536 := s.scale.toUInt16.toNat_lt
  have product : s.elementCount lengths ≤ 80 * 65536 :=
    Nat.mul_le_mul few (Nat.le_of_lt small)
  exact Nat.lt_of_le_of_lt product (by decide)

namespace Emission

/-- The line gives the size class's constant the count. -/
def Defines (count : SizeClass → Nat) (c : SizeClass) (line : String) : Prop :=
  ∃ name, c.constantName = some name ∧
    line = "const int " ++ name ++ " = " ++ toString (count c) ++ ";\n"

theorem defines_constantLine (counted : c ≠ .one) :
    Defines lengths.length c (constantLine lengths c) := by
  cases c with
  | one => exact absurd rfl counted
  | lights => exact ⟨_, rfl, rfl⟩
  | bones => exact ⟨_, rfl, rfl⟩
  | shadowMaps => exact ⟨_, rfl, rfl⟩
  | layers => exact ⟨_, rfl, rfl⟩
  | clipmapSlices => exact ⟨_, rfl, rfl⟩

theorem mem_sizeClasses :
    c ∈ sizeClasses declared ↔ c ≠ .one ∧ ∃ d ∈ declared, d.shape.sizeClass = c := by
  simp [sizeClasses, Vocabulary.complete]

/-- The constants are one line for each size class, and an empty line behind them. -/
theorem constants_eq (lengths : ArrayLengths) (declared : List Parameter) :
    ∃ lines, List.Forall₂ (Defines lengths.length) (sizeClasses declared) lines ∧
      constants lengths declared = String.join lines ++ if lines = [] then "" else "\n" := by
  refine ⟨(sizeClasses declared).map (constantLine lengths), ?_, ?_⟩
  · rw [List.forall₂_map_right_iff, List.forall₂_same]
    intro c hc
    exact defines_constantLine (mem_sizeClasses.1 hc).1
  · unfold constants
    cases sizeClasses declared <;> simp

/-! ## What stands around the constants -/

/-- What stands between the preamble of a stage and its constants. -/
def opening (p : Permutation) : Stage → String
  | .vertex => header p ++ "invariant gl_Position;\n\n"
  | .fragment => header p

/-- The text begins with a title or with the main function. -/
def BeginsLater (text : String) : Prop :=
  ∃ first ∈ ['/', 'v'], text.toList.head? = some first

theorem beginsLater_mainFunction (lengths : ArrayLengths) (temporaries : List Parameter)
    (main : String) : BeginsLater (mainFunction lengths temporaries main) := by
  refine ⟨'v', by simp, ?_⟩
  unfold mainFunction
  simp

/-- A section in front begins with its title, or is not there. -/
theorem BeginsLater.titled {text : String} (h : BeginsLater text) (title : String)
    (lines : List String) : BeginsLater (titled title lines ++ text) := by
  cases lines with
  | nil => simpa [Emission.titled] using h
  | cons line lines =>
    refine ⟨'/', by simp, ?_⟩
    simp [Emission.titled]

theorem BeginsLater.no_constant {text : String} (h : BeginsLater text) :
    ¬ "const ".toList <+: text.toList := by
  rintro ⟨rest, same⟩
  obtain ⟨first, among, begins⟩ := h
  rw [← same] at begins
  cases begins
  exact absurd among (by decide)

/-- The constants of a stage follow its opening, and no constant follows them. -/
theorem exists_text_eq_constants (p : Permutation) (i : Interface) (vertexMain fragmentMain : String)
    (stage : Stage) :
    let e := ofInterface p i vertexMain fragmentMain
    ∃ rest, e.text stage =
        e.preamble stage ++ opening p stage ++ constants p.arrayLengths (i.declared stage) ++ rest ∧
      ¬ "const ".toList <+: rest.toList := by
  intro e
  cases stage with
  | vertex =>
    have later := ((beginsLater_mainFunction p.arrayLengths i.vertexTemporaries vertexMain).titled
      "vertex shader output"
      (Declaration.varyingLines p.dialect .vertex p.arrayLengths 0 i.varyings)).titled
      "uniforms" (Declaration.uniformLines p.arrayLengths i.vertexUniforms) |>.titled
      "vertex shader input" (Declaration.attributeLines p.dialect p.arrayLengths i.attributes)
    refine ⟨_, ?_, later.no_constant⟩
    simp only [e, text, preamble, ofInterface, vertexBody, opening, String.append_assoc]
  | fragment =>
    have later := ((beginsLater_mainFunction p.arrayLengths i.fragmentTemporaries fragmentMain).titled
      "fragment shader output" (outputLines p.dialect)).titled
      "fragment shader input"
      (Declaration.varyingLines p.dialect .fragment p.arrayLengths 0 i.varyings) |>.titled
      "uniforms" (Declaration.uniformLines p.arrayLengths i.fragmentUniforms)
    refine ⟨_, ?_, later.no_constant⟩
    simp only [e, text, preamble, ofInterface, fragmentBody, opening, String.append_assoc]

end Emission

namespace Library

variable {library : Library} {settings : Settings} {p : Permutation} {e : Emission}

theorem opening_derived (library : Library) (p : Permutation) (stage : Stage) :
    Emission.opening (library.derived p) stage = Emission.opening p stage := by
  cases stage <;> simp only [Emission.opening, header_derived]

/--
Behind its opening, the text of a stage has one constant for each size class that its parameters are
counted in, in the order of the size classes, and no others. A constant is at least one and at most the
maximum of its class. The text declares every parameter of the stage, as an array whose length is the
constant times the scale; a parameter that nothing counts is an array of its scale, or no array if that
is one. All lengths fit into a word.
-/
theorem constants_count_arrays (built : library.build settings p = .ok e) (stage : Stage) :
    let count := p.arrayLengths.length
    (∀ c, 1 ≤ count c ∧ count c ≤ c.maximum) ∧
      (∃ classes lines rest,
        classes.Sublist (Vocabulary.all SizeClass) ∧
        (∀ c, c ∈ classes ↔ c ≠ .one ∧ ∃ d ∈ e.interface.declared stage, d.shape.sizeClass = c) ∧
        List.Forall₂ (Emission.Defines count) classes lines ∧
        e.text stage = e.preamble stage ++ Emission.opening p stage ++
          (String.join lines ++ if lines = [] then "" else "\n") ++ rest ∧
        ¬ "const ".toList <+: rest.toList) ∧
      ∀ d ∈ e.interface.declared stage,
        Occurs (d.shape.type.spelling ++ " " ++ d.name ++ d.shape.brackets count ++ ";") (e.text stage) ∧
          count d.shape.sizeClass * d.shape.scale.toNat < UInt32.size := by
  obtain ⟨pair, composed, rfl⟩ := build_eq_ok_iff.1 built
  intro count
  refine ⟨fun c => ⟨ArrayLengths.length_pos _ c, ArrayLengths.length_le_maximum _ c⟩, ?_, ?_⟩
  · obtain ⟨rest, text, none⟩ := Emission.exists_text_eq_constants (library.derived p)
      (.ofScopes pair.vertex.scope pair.fragment.scope) pair.vertex.main pair.fragment.main stage
    obtain ⟨lines, defined, constants⟩ := Emission.constants_eq p.arrayLengths
      ((Interface.ofScopes pair.vertex.scope pair.fragment.scope).declared stage)
    rw [arrayLengths_derived, opening_derived, constants] at text
    exact ⟨_, lines, rest, List.filter_sublist, fun c => Emission.mem_sizeClasses, defined, text, none⟩
  · intro d hd
    have declared := Emission.declaration_occurs_text (library.derived p) pair.vertex.main
      pair.fragment.main hd
    rw [arrayLengths_derived, Parameter.declaration_eq] at declared
    exact ⟨declared, d.shape.elementCount_lt p.arrayLengths⟩

/-- Nine lights are more than an array is built for. -/
theorem phong_nine_counted :
    ∃ e classes lines rest, phong.build (manyLights 9) (phongColor 9) = .ok e ∧
      SizeClass.lights ∈ classes ∧ SizeClass.bones ∉ classes ∧
      List.Forall₂ (Emission.Defines (phongColor 9).arrayLengths.length) classes lines ∧
      (phongColor 9).arrayLengths.length .lights = 8 ∧
      e.text .fragment = e.preamble .fragment ++ "/*  color */\n" ++
        (String.join lines ++ if lines = [] then "" else "\n") ++ rest ∧
      Occurs "vec4 light_colors[8];" (e.text .fragment) ∧
      Occurs "vec4 sky_ground_hemispheres[2];" (e.text .fragment) ∧
      Occurs "vec3 fragment_normal;" (e.text .fragment) := by
  let colors := Catalog.readBy EngineUniform.lightColors lightingSource
  let hemispheres := Catalog.readBy EngineUniform.skyGroundHemispheres lightingSource
  let normal := Catalog.readBy SharedValue.fragmentNormal lightingSource
  obtain ⟨e, built, check⟩ : ∃ e, phong.build (manyLights 9) (phongColor 9) = .ok e ∧
      decide ((∀ d ∈ [colors, hemispheres, normal], d ∈ e.interface.declared .fragment) ∧
        ∀ d ∈ e.interface.declared .fragment, d.shape.sizeClass ≠ .bones) = true :=
    exists_of_any (by decide +kernel)
  obtain ⟨declared, boneless⟩ := of_decide_eq_true check
  obtain ⟨-, ⟨classes, lines, rest, -, counted, defined, text, -⟩, arrays⟩ :=
    constants_count_arrays built .fragment
  refine ⟨e, classes, lines, rest, built, ?_, ?_, defined, by decide, text, ?_, ?_, ?_⟩
  · exact (counted .lights).2 ⟨by decide, colors, declared colors (by simp), rfl⟩
  · intro member
    obtain ⟨-, d, hd, bones⟩ := (counted .bones).1 member
    exact boneless d hd bones
  · have length : colors.shape.brackets (phongColor 9).arrayLengths.length = "[8]" := by
      decide +kernel
    have occurs := (arrays colors (declared colors (by simp))).1
    rwa [length] at occurs
  · have length : hemispheres.shape.brackets (phongColor 9).arrayLengths.length = "[2]" := by
      decide +kernel
    have occurs := (arrays hemispheres (declared hemispheres (by simp))).1
    rwa [length] at occurs
  · exact (arrays normal (declared normal (by simp))).1

end Library

end ShaderComposition
