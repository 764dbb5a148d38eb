import ShaderComposition.Proofs.Composition.Declarations

/-!
# Pieces of the program text

What the text of a stage is made of: the declaration of every parameter of its interface, and the text
of its parts.
-/

namespace ShaderComposition

/-- A text is a piece of another. -/
def Occurs (piece text : String) : Prop :=
  ∃ before after, text = before ++ piece ++ after

namespace Occurs

variable {piece text : String}

theorem refl (text : String) : Occurs text text :=
  ⟨"", "", by simp⟩

theorem left (h : Occurs piece text) (after : String) : Occurs piece (text ++ after) := by
  obtain ⟨a, b, rfl⟩ := h
  exact ⟨a, b ++ after, by simp only [String.append_assoc]⟩

theorem right (h : Occurs piece text) (before : String) : Occurs piece (before ++ text) := by
  obtain ⟨a, b, rfl⟩ := h
  exact ⟨before ++ a, b, by simp only [String.append_assoc]⟩

theorem front {more : String} (h : Occurs (piece ++ more) text) : Occurs piece text := by
  obtain ⟨a, b, rfl⟩ := h
  exact ⟨a, more ++ b, by simp only [String.append_assoc]⟩

theorem trans {whole : String} (h : Occurs piece text) (inside : Occurs text whole) :
    Occurs piece whole := by
  obtain ⟨a, b, rfl⟩ := inside
  exact (h.right a).left b

theorem join {texts : List String} (member : text ∈ texts) (h : Occurs piece text) :
    Occurs piece (String.join texts) := by
  obtain ⟨before, after, rfl⟩ := List.append_of_mem member
  rw [String.join_append, String.join_cons]
  exact (h.left _).right _

end Occurs

namespace Emission

variable {lengths : ArrayLengths} {d : Parameter} {i : Interface} {main : String}

/-- A line of declaration ends the declaration that it is of. -/
theorem declaration_occurs_line (d : Parameter) (keyword : String) (lengths : ArrayLengths) :
    Occurs (d.declaration lengths ++ ";") (d.declarationLine keyword lengths) := by
  unfold Parameter.declarationLine
  apply Occurs.left
  rw [String.append_assoc]
  apply Occurs.right
  exact .refl _

theorem line_occurs_titled {line title : String} {lines : List String} (member : line ∈ lines) :
    Occurs (line ++ "\n") (titled title lines) := by
  have filled : lines.isEmpty = false := by
    cases lines with
    | nil => cases member
    | cons _ _ => rfl
  have inside : Occurs (line ++ "\n") (String.join (lines.map (· ++ "\n"))) :=
    Occurs.join (List.mem_map.2 ⟨line, member, rfl⟩) (.refl _)
  simp only [titled, filled, Bool.false_eq_true, if_false]
  exact (inside.right _).left _

theorem exists_mem_varyingLines (dialect : Dialect) (stage : Stage) (lengths : ArrayLengths)
    (location : Nat) {ps : List Parameter} (hd : d ∈ ps) : ∃ keyword,
      d.declarationLine keyword lengths ∈ Declaration.varyingLines dialect stage lengths location ps := by
  induction ps generalizing location with
  | nil => cases hd
  | cons p ps ih =>
    rcases List.mem_cons.1 hd with rfl | later
    · exact ⟨_, List.mem_cons_self⟩
    · obtain ⟨keyword, member⟩ := ih _ later
      exact ⟨keyword, List.mem_cons_of_mem _ member⟩

theorem line_occurs_mainFunction {temporaries : List Parameter} (hd : d ∈ temporaries) :
    Occurs (d.declarationLine "" lengths ++ "\n") (mainFunction lengths temporaries main) := by
  have line : Occurs (d.declarationLine "" lengths ++ "\n")
      (Text.line 1 (d.declarationLine "" lengths)) := by
    rw [Text.line, String.append_assoc]
    exact (Occurs.refl _).right _
  unfold mainFunction
  iterate 3 apply Occurs.left
  apply Occurs.right
  exact .join (List.mem_map_of_mem hd) line

theorem main_occurs_mainFunction (lengths : ArrayLengths) (temporaries : List Parameter)
    (main : String) : Occurs main (mainFunction lengths temporaries main) :=
  ((Occurs.refl main).right _).left _

/-- The fragment text has a line of declaration for every parameter of the stage. -/
theorem line_occurs_fragmentBody (p : Permutation) (main : String) (hd : d ∈ i.declared .fragment) :
    ∃ keyword, Occurs (d.declarationLine keyword p.arrayLengths ++ "\n") (fragmentBody p i main) := by
  unfold fragmentBody
  rcases List.mem_append.1 hd with shared | temporary
  · rcases List.mem_append.1 shared with uniform | varying
    · refine ⟨"uniform", ?_⟩
      iterate 3 apply Occurs.left
      apply Occurs.right
      exact line_occurs_titled (List.mem_map_of_mem uniform)
    · obtain ⟨keyword, member⟩ := exists_mem_varyingLines p.dialect .fragment p.arrayLengths 0 varying
      refine ⟨keyword, ?_⟩
      iterate 2 apply Occurs.left
      apply Occurs.right
      exact line_occurs_titled member
  · refine ⟨"", ?_⟩
    apply Occurs.right
    exact line_occurs_mainFunction temporary

/-- The vertex text has a line of declaration for every parameter of the stage. -/
theorem line_occurs_vertexBody (p : Permutation) (main : String) (hd : d ∈ i.declared .vertex) :
    ∃ keyword, Occurs (d.declarationLine keyword p.arrayLengths ++ "\n") (vertexBody p i main) := by
  unfold vertexBody
  rcases List.mem_append.1 hd with shared | temporary
  · rcases List.mem_append.1 shared with read | varying
    · rcases List.mem_append.1 read with supplied | uniform
      · obtain ⟨a, ha, rfl⟩ := List.mem_map.1 supplied
        refine ⟨Declaration.attributeKeyword p.dialect a, ?_⟩
        iterate 3 apply Occurs.left
        apply Occurs.right
        exact line_occurs_titled (List.mem_map_of_mem ha)
      · refine ⟨"uniform", ?_⟩
        iterate 2 apply Occurs.left
        apply Occurs.right
        exact line_occurs_titled (List.mem_map_of_mem uniform)
    · obtain ⟨keyword, member⟩ := exists_mem_varyingLines p.dialect .vertex p.arrayLengths 0 varying
      refine ⟨keyword, ?_⟩
      apply Occurs.left
      apply Occurs.right
      exact line_occurs_titled member
  · refine ⟨"", ?_⟩
    apply Occurs.right
    exact line_occurs_mainFunction temporary

/-- The text of a stage has a line of declaration for every parameter of the stage. -/
theorem line_occurs_text (p : Permutation) (vertexMain fragmentMain : String) {stage : Stage}
    (hd : d ∈ i.declared stage) : ∃ keyword,
      Occurs (d.declarationLine keyword p.arrayLengths ++ "\n")
        ((Emission.ofInterface p i vertexMain fragmentMain).text stage) := by
  cases stage with
  | vertex =>
    obtain ⟨keyword, line⟩ := line_occurs_vertexBody p vertexMain hd
    exact ⟨keyword, line.right _⟩
  | fragment =>
    obtain ⟨keyword, line⟩ := line_occurs_fragmentBody p fragmentMain hd
    exact ⟨keyword, line.right _⟩

/-- The text of a stage declares every parameter of the stage. -/
theorem declaration_occurs_text (p : Permutation) (vertexMain fragmentMain : String) {stage : Stage}
    (hd : d ∈ i.declared stage) :
    Occurs (d.declaration p.arrayLengths ++ ";")
      ((Emission.ofInterface p i vertexMain fragmentMain).text stage) := by
  obtain ⟨keyword, line⟩ := line_occurs_text p vertexMain fragmentMain hd
  exact ((declaration_occurs_line d keyword p.arrayLengths).left "\n").trans line

end Emission

namespace LightBlock

variable {b : LightBlock} {n : Nat}

/-- The head of a loop that counts lights up to a constant. -/
def loopHead (first n : Nat) : String :=
  "for (i = " ++ toString first ++ "; i < " ++ toString n ++ "; ++i)"

theorem loopHead_occurs_loopText (h : b.range.bound = .count n) :
    Occurs (loopHead b.range.first n) b.loopText := by
  have bound : b.range.end?.expression.text = toString n := by
    simp only [LightRange.end?, h, Expression.ofNat, Expression.text]
  have head : Occurs (loopHead b.range.first n) (Text.line 2 (loopHead b.range.first n)) :=
    ((Occurs.refl _).right _).left _
  unfold loopText
  rw [bound]
  iterate 6 apply Occurs.left
  exact head.right _

theorem loopHead_occurs_text (h : b.range.bound = .count n) (locals : List Parameter)
    (lengths : ArrayLengths) : Occurs (loopHead b.range.first n) (b.text locals lengths) :=
  ((loopHead_occurs_loopText h).right _).left _

end LightBlock

namespace StageSource

variable {s t : StageSource} {lengths : ArrayLengths} {part : Part} {parts : List Part}

/-- The text of a stage only grows. -/
theorem main_occurs_addAll (h : s.addAll lengths parts = .ok t) : Occurs s.main t.main := by
  induction parts generalizing s with
  | nil =>
    cases h
    exact .refl _
  | cons part parts ih =>
    obtain ⟨u, step, rest⟩ := addAll_cons_eq_ok_iff.1 h
    obtain ⟨xs, text, -, -, main⟩ := add_cases step
    exact (main ▸ (Occurs.refl s.main).left text).trans (ih rest)

/-- The text of every part is in the text of the stage. -/
theorem part_occurs_addAll (member : part ∈ parts) (h : s.addAll lengths parts = .ok t) :
    ∃ xs text, part.yields lengths = .ok (xs, text) ∧ Occurs text t.main := by
  induction parts generalizing s with
  | nil => cases member
  | cons first parts ih =>
    obtain ⟨u, step, rest⟩ := addAll_cons_eq_ok_iff.1 h
    rcases List.mem_cons.1 member with rfl | later
    · obtain ⟨xs, text, yields, -, main⟩ := add_cases step
      have here : Occurs text u.main := main ▸ (Occurs.refl text).right s.main
      exact ⟨xs, text, yields, here.trans (main_occurs_addAll rest)⟩
    · exact ih later rest

end StageSource

/-- The head of a loop with a constant end is in the text of the stage. -/
theorem LightBlock.loopHead_occurs_addAll {s t : StageSource} {lengths : ArrayLengths}
    {parts : List Part} {b : LightBlock} {n : Nat} (member : Part.lights b ∈ parts)
    (bound : b.range.bound = .count n) (h : s.addAll lengths parts = .ok t) :
    Occurs (loopHead b.range.first n) t.main := by
  obtain ⟨xs, text, yields, occurs⟩ := StageSource.part_occurs_addAll member h
  obtain ⟨inner, -, -, rfl⟩ := Part.yields_lights_iff.1 yields
  exact (loopHead_occurs_text bound inner.locals lengths).trans occurs

end ShaderComposition
