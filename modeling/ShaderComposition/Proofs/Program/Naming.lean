import ShaderComposition.Proofs.Program.Dependence
import ShaderComposition.Proofs.Text.Comments

/-!
# What the name of a program is good for

The name of a material is written into the comment at the head of both stages, and nowhere else
(`Emission.exists_text_eq`). So it has no influence on anything that is built but comments, unless it ends
the comment that it stands in: it is copied as it is, and what comes behind a closing mark is program text.
-/

namespace ShaderComposition

open Vocabulary (spelling)

namespace Permutation

/-- The permutation under another name. -/
def renamed (p : Permutation) (name : String) : Permutation :=
  { p with name }

theorem unnoticed_renamed (name : String) : Unnoticed (renamed · name) :=
  ⟨fun _ _ => rfl, fun _ => rfl, fun _ => rfl⟩

end Permutation

namespace Emission

open Text (withoutComments uncomment)

variable {p : Permutation} {name : String}

/-- The directives have no comment, and nothing that one could start with. -/
theorem slash_notMem_directives (dialect : Dialect) (declared : List Parameter) :
    '/' ∉ (directives dialect declared).toList := by
  have version : '/' ∉ (toString dialect.version).toList := by
    cases dialect <;> decide
  unfold directives
  simp only [String.toList_append, List.mem_append, not_or]
  refine ⟨⟨⟨⟨by decide, version⟩, by decide⟩, ?_⟩, ?_⟩
  · split <;> decide
  · split <;> decide

theorem header_eq (p : Permutation) :
    header p = "/* " ++ (p.name ++ " " ++ spelling p.purpose) ++ " */\n" := by
  simp only [header, String.append_assoc]

/-- Under another name, nothing but the header of a text is another one. -/
theorem exists_text_eq (p : Permutation) (name : String) (i : Interface)
    (vertexMain fragmentMain : String) (stage : Stage) :
    ∃ after,
      (ofInterface p i vertexMain fragmentMain).text stage =
          directives p.dialect (i.declared stage) ++ (header p ++ after) ∧
        (ofInterface (p.renamed name) i vertexMain fragmentMain).text stage =
          directives p.dialect (i.declared stage) ++ (header (p.renamed name) ++ after) := by
  cases stage with
  | vertex =>
    simp only [text, ofInterface, vertexBody, String.append_assoc]
    exact ⟨_, rfl, rfl⟩
  | fragment =>
    simp only [text, ofInterface, fragmentBody, String.append_assoc]
    exact ⟨_, rfl, rfl⟩

/-- Without comments, two texts that differ in the name alone are the same if their headers are. -/
theorem withoutComments_text_iff (p : Permutation) (name : String) (i : Interface)
    (vertexMain fragmentMain : String) (stage : Stage) :
    withoutComments ((ofInterface (p.renamed name) i vertexMain fragmentMain).text stage) =
        withoutComments ((ofInterface p i vertexMain fragmentMain).text stage) ↔
      withoutComments (header (p.renamed name)) = withoutComments (header p) := by
  obtain ⟨after, text, renamed⟩ := exists_text_eq p name i vertexMain fragmentMain stage
  have plain := slash_notMem_directives p.dialect (i.declared stage)
  rw [text, renamed, header_eq, header_eq, Text.withoutComments_commentLine plain,
    Text.withoutComments_commentLine plain, String.append_right_inj, String.append_left_inj]

/-- A header is nothing but a comment if the name does not end the comment. -/
theorem withoutComments_header (unclosed : ¬ Occurs "*/" p.name) :
    withoutComments (header p) = "\n" := by
  rw [occurs_iff_run] at unclosed
  obtain ⟨nothing, inside⟩ := Text.uncomment_of_unclosed unclosed
  have behind : uncomment false (header p).toList =
      uncomment true (p.name.toList ++ ' ' :: ((spelling p.purpose).toList ++ " */\n".toList)) := by
    simp [header, uncomment]
  rw [withoutComments, behind, Text.uncomment_append_blank, nothing, inside]
  cases p.purpose <;> rfl

end Emission

namespace Library

variable {library : Library} {settings : Settings} {p : Permutation} {name : String}

theorem derived_renamed (library : Library) (p : Permutation) (name : String) :
    library.derived (p.renamed name) = (library.derived p).renamed name :=
  (Permutation.unnoticed_renamed name).deriveFeatures p

theorem header_derived (library : Library) (p : Permutation) :
    Emission.header (library.derived p) = Emission.header p := by
  obtain ⟨features, same⟩ := (agrees_derived library p).rest
  rw [same]
  rfl

theorem stages_renamed (library : Library) (settings : Settings) (p : Permutation) (name : String) :
    library.stages settings (p.renamed name) = library.stages settings p := by
  have parts (stage : Stage) :
      library.parts settings (p.renamed name) stage = library.parts settings p stage := by
    rw [Library.parts, derived_renamed]
    cases stage <;> rfl
  rw [stages_eq_parts, parts, parts, derived_renamed]
  rfl

open Text (withoutComments)

/--
The name of a program shows in the comments of its texts only. Programs that differ in the name are
refused alike, or have the same interface and default values. Their texts without comments are the same
just where their headers are, and so whenever neither name ends the comment that it stands in.
-/
theorem build_renamed (library : Library) (settings : Settings) (p : Permutation) (name : String) :
    (∃ refusal, library.build settings p = .error refusal ∧
        library.build settings (p.renamed name) = .error refusal) ∨
      ∃ e f, library.build settings p = .ok e ∧ library.build settings (p.renamed name) = .ok f ∧
        f.interface = e.interface ∧ f.defaultValues = e.defaultValues ∧
        (∀ stage, withoutComments (f.text stage) = withoutComments (e.text stage) ↔
          withoutComments (Emission.header (p.renamed name)) = withoutComments (Emission.header p)) ∧
        (¬ Occurs "*/" p.name → ¬ Occurs "*/" name →
          ∀ stage, withoutComments (f.text stage) = withoutComments (e.text stage)) := by
  cases composed : library.stages settings p with
  | error refusal =>
    refine .inl ⟨refusal, ?_, ?_⟩
    · rw [build_eq_stages, composed]
      rfl
    · rw [build_eq_stages, stages_renamed, composed]
      rfl
  | ok pair =>
    have texts_iff (stage : Stage) := Emission.withoutComments_text_iff (library.derived p) name
      (.ofScopes pair.vertex.scope pair.fragment.scope) pair.vertex.main pair.fragment.main stage
    rw [← derived_renamed, header_derived, header_derived] at texts_iff
    refine .inr ⟨_, _, build_eq_ok_iff.2 ⟨pair, composed, rfl⟩,
      build_eq_ok_iff.2 ⟨pair, (stages_renamed ..).trans composed, rfl⟩, rfl, rfl, texts_iff, ?_⟩
    intro unclosed unclosed' stage
    rw [texts_iff, Emission.withoutComments_header unclosed, Emission.withoutComments_header]
    exact unclosed'

/-- A surface may be named after a comment that is not closed, or over several lines. -/
theorem litSurface_renamed :
    ∃ e f, litSurface.build twoAndTwo surfaceColor = .ok e ∧
      litSurface.build twoAndTwo (surfaceColor.renamed "wet /* stone\n// *") = .ok f ∧
      f.interface = e.interface ∧
      ∀ stage, withoutComments (f.text stage) = withoutComments (e.text stage) := by
  obtain ⟨e, built⟩ : ∃ e, litSurface.build twoAndTwo surfaceColor = .ok e :=
    exists_of_isOk (by decide +kernel)
  have unclosed : ∀ name ∈ ["", "wet /* stone\n// *"], ¬ Occurs "*/" name := by
    simp only [occurs_iff_run]
    decide +kernel
  rcases build_renamed litSurface twoAndTwo surfaceColor "wet /* stone\n// *" with
    ⟨refusal, refused, -⟩ | ⟨e', f, built', renamed, interface, -, -, texts⟩
  · cases built.symm.trans refused
  · exact ⟨e', f, built', renamed, interface, texts (unclosed "" (by simp)) (unclosed _ (by simp))⟩

/-- The depth pass of a stone. -/
def stoneDepth : Permutation :=
  .resolve {} { name := "stone" } { dialect := .glsl120, purpose := .depth }

/-- A name that ends the comment puts the rest of itself into the program text of both stages. -/
theorem closing_name_shows :
    ∃ e f, (⟨[]⟩ : Library).build {} stoneDepth = .ok e ∧
      (⟨[]⟩ : Library).build {} (stoneDepth.renamed "stone */ wet") = .ok f ∧
      ∀ stage, withoutComments (f.text stage) ≠ withoutComments (e.text stage) := by
  obtain ⟨e, built⟩ : ∃ e, (⟨[]⟩ : Library).build {} stoneDepth = .ok e :=
    exists_of_isOk (by decide +kernel)
  obtain ⟨pair, composed, rfl⟩ := build_eq_ok_iff.1 built
  refine ⟨_, _, built, build_eq_ok_iff.2 ⟨pair, (stages_renamed ..).trans composed, rfl⟩, ?_⟩
  intro stage same
  rw [derived_renamed, Emission.withoutComments_text_iff, ← derived_renamed, header_derived,
    header_derived] at same
  exact absurd same (by decide +kernel)

end Library

end ShaderComposition
