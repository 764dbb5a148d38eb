import ShaderComposition.Proofs.Glsl.TypeNames
import ShaderComposition.Proofs.Interface.Accounting
import ShaderComposition.Proofs.Program.Optimizing
import ShaderComposition.Proofs.Program.SizeConstants
import ShaderComposition.Proofs.Program.LineSearch

/-!
# Finding the loose uniforms of a program

A program declares each of its uniforms outside of blocks, in a line of its own, and a comment on that
line says who declared it. The front end is not asked about a stage in which such a line is found. Names
are copied into the line as they are: a brace in the name or in the comment hides the declaration, and a
line feed in the name cuts it (`Parameter.Scannable`). The text of a stage is taken apart into pieces that
each end with a line, one of which declares the uniforms, so what the search finds in the text is what it
finds in the pieces (`Emission.isSome_looseUniform?_body`).
-/

namespace ShaderComposition

namespace FrontEnd

open Text (lines trim)

/-! ## The version -/

/-- The preamble of a program states the version of its dialect. -/
theorem statedVersion_directives (dialect : Dialect) (declared : List Parameter) :
    statedVersion (Emission.directives dialect declared) = .ok dialect.version := by
  obtain ⟨extensions, same⟩ : ∃ extensions, (Emission.directives dialect declared).toList =
      ("#version " ++ toString dialect.version).toList ++ '\n' :: extensions := by
    unfold Emission.directives
    simp only [String.toList_append, List.append_assoc]
    exact ⟨_, rfl⟩
  have first : (lines (("#version " ++ toString dialect.version).toList ++ ['\n'])).findSome?
      (fun line => dropPrefix? "#version".toList (trim line)) =
        some (' ' :: (toString dialect.version).toList) := by
    cases dialect <;> decide
  simp only [statedVersion]
  rw [same, Text.lines_append, List.findSome?_append, first, Option.some_or]
  cases dialect <;> decide

section Optimizer

variable {preamble source name : String} {version : Nat}

/-- In a new version, a stage with a loose uniform is refused without a look at it. -/
theorem optimizer_of_looseUniform (stated : statedVersion preamble = .ok version)
    (new : oldestVersion ≤ version) (found : looseUniform? source = some name)
    (read : String → Stage → Except String Unit) (stage : Stage) :
    optimizer read preamble source stage =
      .error { stage, log := (Refusal.looseUniform name).message } := by
  simp only [optimizer, check, stated, found, Nat.not_lt.2 new, if_false]

/-- In a new version, the front end is asked about a stage in which no loose uniform is found. -/
theorem optimizer_of_none (stated : statedVersion preamble = .ok version)
    (new : oldestVersion ≤ version) (unseen : looseUniform? source = none) (stage : Stage) :
    optimizer (fun _ _ => .ok ()) preamble source stage = .ok source := by
  simp only [optimizer, check, stated, unseen, Nat.not_lt.2 new, if_false]

end Optimizer

end FrontEnd

/-! ## Declarations -/

theorem Shape.notMem_brackets {s : Shape} {count : SizeClass → Nat} {c : Char}
    (digit : c.isDigit = false) (brackets : c ≠ '[' ∧ c ≠ ']') : c ∉ (s.brackets count).toList := by
  have number (n : Nat) : c ∉ ("[" ++ toString n ++ "]").toList := by
    have digits : c ∉ (toString n).toList := by
      intro member
      rw [Nat.toString_eq_repr, Nat.toList_repr] at member
      rw [Nat.isDigit_of_mem_toDigits (by decide) (by decide) member] at digit
      exact Bool.noConfusion digit
    simp only [String.toList_append, List.mem_append, not_or]
    exact ⟨⟨by simp [brackets.1], digits⟩, by simp [brackets.2]⟩
  unfold Shape.brackets
  cases s.sizeClass with
  | one =>
    show c ∉ (if 1 < s.scale.toNat then "[" ++ toString s.scale.toNat ++ "]" else "").toList
    split
    · exact number _
    · exact List.not_mem_nil
  | _ => exact number _

namespace Parameter

open FrontEnd (looseUniform? looseUniformOf)
open Text (firstLine)

variable {d : Parameter}

/-- The search for loose uniforms sees the line that declares the parameter. -/
structure Scannable (d : Parameter) : Prop where
  single_line : '\n' ∉ d.name.toList
  name_unbraced : '\x7b' ∉ d.name.toList
  comment_unbraced : '\x7b' ∉ firstLine d.source.toList

instance (d : Parameter) : Decidable d.Scannable :=
  decidable_of_iff
    ('\n' ∉ d.name.toList ∧ '\x7b' ∉ d.name.toList ∧ '\x7b' ∉ firstLine d.source.toList)
    ⟨fun h => ⟨h.1, h.2.1, h.2.2⟩, fun h => ⟨h.1, h.2, h.3⟩⟩

/-- The comment behind a declaration. -/
def comment (d : Parameter) : String :=
  if d.source = "" then "" else " /* " ++ d.source ++ " */"

theorem brace_mem_comment_iff :
    '\x7b' ∈ firstLine d.comment.toList ↔ '\x7b' ∈ firstLine d.source.toList := by
  have marks : '\x7b' ∉ firstLine " /* ".toList ∧ '\n' ∉ " /* ".toList ∧
      '\x7b' ∉ firstLine " */".toList := by
    decide
  unfold comment
  split
  · next empty => rw [empty]
  · rw [String.toList_append, String.toList_append, Text.mem_firstLine_append_iff,
      Text.mem_firstLine_append_iff]
    simp only [marks, not_false_eq_true, false_or, true_and, and_false, or_false]

/-- In front of the comment, the marks that the search looks for can only be in the name. -/
theorem exists_declarationLine_eq (d : Parameter) (lengths : ArrayLengths) :
    ∃ c words, c.isAlphanum = true ∧
      (d.declarationLine "uniform" lengths).toList =
        "uniform ".toList ++ c :: (words ++ [';']) ++ d.comment.toList ∧
      ∀ mark ∈ ['\n', '\x7b'], mark ∈ words ↔ mark ∈ d.name.toList := by
  obtain ⟨c, word, spelled, letter, letters⟩ := d.shape.type.exists_spelling_eq
  refine ⟨c, word ++ ' ' :: d.name.toList ++ (d.shape.brackets lengths.length).toList, letter, ?_, ?_⟩
  · rw [declarationLine, declaration_eq]
    simp only [String.toList_append, spelled, comment]
    simp
  · intro mark isMark
    obtain ⟨odd, digit, brackets, blank⟩ :
        mark.isAlphanum = false ∧ mark.isDigit = false ∧ (mark ≠ '[' ∧ mark ≠ ']') ∧ mark ≠ ' ' := by
      rcases List.mem_pair.1 isMark with rfl | rfl <;> decide
    have absent : mark ∉ word := by
      intro member
      rw [letters mark member] at odd
      exact Bool.noConfusion odd
    simp only [List.mem_append, List.mem_cons, absent, blank, Shape.notMem_brackets digit brackets,
      false_or, or_false]

theorem feed_notMem {c : Char} {words : List Char} (letter : c.isAlphanum = true)
    (single : '\n' ∉ words) : '\n' ∉ "uniform ".toList ++ c :: (words ++ [';']) := by
  have first : '\n' ≠ c := by
    rintro rfl
    exact absurd letter (by decide)
  simp only [List.mem_append, List.mem_cons, not_or]
  exact ⟨by decide, first, single, by decide, List.not_mem_nil⟩

/-- The first line of a declaration is seen if no block seems to open there. -/
theorem isSome_looseUniformOf_declarationLine (single : '\n' ∉ d.name.toList)
    (lengths : ArrayLengths) :
    (looseUniformOf (firstLine (d.declarationLine "uniform" lengths).toList)).isSome ↔
      '\x7b' ∉ d.name.toList ∧ '\x7b' ∉ firstLine d.source.toList := by
  obtain ⟨c, words, letter, line, marks⟩ := d.exists_declarationLine_eq lengths
  have front := feed_notMem letter ((marks _ (by decide)).not.2 single)
  rw [line, Text.firstLine_append front, List.append_assoc, List.cons_append,
    FrontEnd.isSome_looseUniformOf_iff letter]
  simp only [List.mem_append, List.mem_cons, not_or, brace_mem_comment_iff, marks '\x7b' (by decide)]
  simp

/-- The search sees a scannable declaration, whatever comes behind its first line. -/
theorem Scannable.isSome_looseUniform? (scannable : d.Scannable) (lengths : ArrayLengths) :
    (looseUniform? (d.declarationLine "uniform" lengths ++ "\n")).isSome := by
  obtain ⟨more, found, -⟩ :=
    FrontEnd.exists_looseUniform?_line (d.declarationLine "uniform" lengths)
  have seen := (isSome_looseUniformOf_declarationLine scannable.single_line lengths).2
    ⟨scannable.name_unbraced, scannable.comment_unbraced⟩
  rw [found, Option.isSome_or, seen, Bool.true_or]

/-- The declaration stands on one line together with its comment. -/
structure OneLine (d : Parameter) : Prop where
  name : '\n' ∉ d.name.toList
  source : '\n' ∉ d.source.toList

theorem OneLine.notMem_declarationLine (one : d.OneLine) (lengths : ArrayLengths) :
    '\n' ∉ (d.declarationLine "uniform" lengths).toList := by
  obtain ⟨c, words, letter, line, marks⟩ := d.exists_declarationLine_eq lengths
  have comment : '\n' ∉ d.comment.toList := by
    unfold comment
    split
    · decide
    · simp only [String.toList_append, List.mem_append, not_or]
      exact ⟨⟨by decide, one.source⟩, by decide⟩
  rw [line, List.mem_append, not_or]
  exact ⟨feed_notMem letter ((marks _ (by decide)).not.2 one.name), comment⟩

/-- Of declarations on one line, the search sees just the scannable ones. -/
theorem OneLine.isSome_looseUniform?_iff (one : d.OneLine) (lengths : ArrayLengths) :
    (looseUniform? (d.declarationLine "uniform" lengths ++ "\n")).isSome ↔ d.Scannable := by
  obtain ⟨more, found, none⟩ :=
    FrontEnd.exists_looseUniform?_line (d.declarationLine "uniform" lengths)
  constructor
  · intro seen
    have single := one.notMem_declarationLine lengths
    rw [found, none single, Option.or_none, isSome_looseUniformOf_declarationLine one.name] at seen
    exact ⟨one.name, seen.1, seen.2⟩
  · intro scannable
    exact scannable.isSome_looseUniform? lengths

end Parameter

namespace Emission

open FrontEnd (looseUniform? looseUniform?_append)
open Text (Ended)

/-! ## Texts -/

theorem ended_titled (title : String) (lines : List String) : Ended (titled title lines) := by
  unfold titled
  split
  · exact .inl rfl
  · exact .inr ⟨_, rfl⟩

theorem ended_constants (lengths : ArrayLengths) (declared : List Parameter) :
    Ended (constants lengths declared) := by
  unfold constants
  simp only
  split
  · exact .inl rfl
  · exact .inr ⟨_, rfl⟩

theorem ended_opening (p : Permutation) (stage : Stage) : Ended (opening p stage) := by
  have header : Ended (header p) := by
    refine .inr ⟨"/* " ++ p.name ++ " " ++ Vocabulary.spelling p.purpose ++ " */", ?_⟩
    simp only [Emission.header, String.append_assoc]
    rfl
  cases stage with
  | vertex => exact header.append (.inr ⟨"invariant gl_Position;\n", rfl⟩)
  | fragment => exact header

/-- The lines that declare uniforms, under their title. -/
def uniformSection (lengths : ArrayLengths) (uniforms : List Parameter) : String :=
  titled "uniforms" (Declaration.uniformLines lengths uniforms)

/-- In the lines that declare uniforms, the search goes from one declaration to the next. -/
theorem isSome_looseUniform?_uniformSection (lengths : ArrayLengths) (uniforms : List Parameter) :
    (looseUniform? (uniformSection lengths uniforms)).isSome ↔
      ∃ d ∈ uniforms, (looseUniform? (d.declarationLine "uniform" lengths ++ "\n")).isSome := by
  cases uniforms with
  | nil => simp [uniformSection, Declaration.uniformLines, titled, looseUniform?, Text.lines]
  | cons d ds =>
    have heading : Ended "/* uniforms */\n" := .inr ⟨"/* uniforms */", rfl⟩
    have nothing : looseUniform? "/* uniforms */\n" = none ∧ looseUniform? "\n" = none := by
      decide
    have ended : ∀ text ∈ (Declaration.uniformLines lengths (d :: ds)).map (· ++ "\n"), Ended text := by
      intro text member
      obtain ⟨line, -, rfl⟩ := List.mem_map.1 member
      exact .inr ⟨line, rfl⟩
    show (looseUniform? ("/* uniforms */\n" ++ String.join _ ++ "\n")).isSome ↔ _
    rw [looseUniform?_append (heading.append (.join ended)), looseUniform?_append heading, nothing.1,
      nothing.2, Option.or_none, Option.none_or, FrontEnd.isSome_looseUniform?_join ended]
    simp [Declaration.uniformLines]

/-- The main function in pieces, each of which ends with its line. -/
def mainPieces (lengths : ArrayLengths) (temporaries : List Parameter) (main : String) : List String :=
  "void main()\n\x7b\n" :: temporaries.map (fun p => Text.line 1 (p.declarationLine "" lengths)) ++
    [if temporaries.isEmpty then "" else "\n", main ++ "\x7d\n"]

theorem join_mainPieces (lengths : ArrayLengths) (temporaries : List Parameter) (main : String) :
    String.join (mainPieces lengths temporaries main) = mainFunction lengths temporaries main := by
  unfold mainFunction
  simp only [mainPieces, List.cons_append, String.join_cons, String.join_append, String.join_nil,
    String.append_empty, String.append_assoc]

theorem ended_mainPieces (lengths : ArrayLengths) (temporaries : List Parameter) (main : String) :
    ∀ text ∈ mainPieces lengths temporaries main, Ended text := by
  intro text member
  simp only [mainPieces, List.cons_append, List.mem_cons, List.mem_append, List.mem_map,
    List.not_mem_nil, or_false] at member
  rcases member with rfl | ⟨d, -, rfl⟩ | rfl | rfl
  · exact .inr ⟨"void main()\n\x7b", rfl⟩
  · exact .inr ⟨_, rfl⟩
  · split
    · exact .inl rfl
    · exact .inr ⟨"", rfl⟩
  · exact .inr ⟨main ++ "\x7d", by rw [String.append_assoc]; rfl⟩

/-- What is written in front of the uniforms of a stage. -/
def piecesBefore (p : Permutation) (i : Interface) : Stage → List String
  | .vertex => [
    opening p .vertex,
    constants p.arrayLengths (i.declared .vertex),
    titled "vertex shader input"
      (Declaration.attributeLines p.dialect p.arrayLengths i.attributes)]
  | .fragment => [opening p .fragment, constants p.arrayLengths (i.declared .fragment)]

/-- What is written behind the uniforms of a stage. -/
def piecesBehind (p : Permutation) (i : Interface) (main : String) : Stage → List String
  | .vertex =>
    titled "vertex shader output"
        (Declaration.varyingLines p.dialect .vertex p.arrayLengths 0 i.varyings) ::
      mainPieces p.arrayLengths i.vertexTemporaries main
  | .fragment =>
    titled "fragment shader input"
        (Declaration.varyingLines p.dialect .fragment p.arrayLengths 0 i.varyings) ::
      titled "fragment shader output" (outputLines p.dialect) ::
        mainPieces p.arrayLengths i.fragmentTemporaries main

theorem ended_piecesBefore (p : Permutation) (i : Interface) (stage : Stage) :
    ∀ text ∈ piecesBefore p i stage, Ended text := by
  have opened := ended_opening p stage
  have counted := ended_constants p.arrayLengths (i.declared stage)
  cases stage with
  | vertex => simp [piecesBefore, opened, counted, ended_titled]
  | fragment => simp [piecesBefore, opened, counted]

theorem ended_piecesBehind (p : Permutation) (i : Interface) (main : String) (stage : Stage) :
    ∀ text ∈ piecesBehind p i main stage, Ended text := by
  cases stage with
  | vertex => simpa [piecesBehind, ended_titled] using ended_mainPieces _ i.vertexTemporaries main
  | fragment => simpa [piecesBehind, ended_titled] using ended_mainPieces _ i.fragmentTemporaries main

/-- The text of a stage declares its uniforms in one place. -/
theorem body_eq_pieces (p : Permutation) (i : Interface) (vertexMain fragmentMain : String)
    (stage : Stage) :
    (ofInterface p i vertexMain fragmentMain).body stage =
      String.join (piecesBefore p i stage) ++
        uniformSection p.arrayLengths (i.listing stage .uniforms) ++
          String.join (piecesBehind p i (perStage vertexMain fragmentMain stage) stage) := by
  cases stage with
  | vertex =>
    have body : (ofInterface p i vertexMain fragmentMain).body .vertex = vertexBody p i vertexMain :=
      body_eq_of_text rfl
    simp only [body, vertexBody, piecesBefore, piecesBehind, opening, uniformSection, Interface.listing,
      perStage, join_mainPieces, String.join_cons, String.join_nil, String.append_empty,
      String.append_assoc]
  | fragment =>
    have body : (ofInterface p i vertexMain fragmentMain).body .fragment =
        fragmentBody p i fragmentMain :=
      body_eq_of_text rfl
    simp only [body, fragmentBody, piecesBefore, piecesBehind, opening, uniformSection, Interface.listing,
      perStage, join_mainPieces, String.join_cons, String.join_nil, String.append_empty,
      String.append_assoc]

/-- The search through a stage goes through its uniforms and through the pieces around them. -/
theorem isSome_looseUniform?_body (p : Permutation) (i : Interface) (vertexMain fragmentMain : String)
    (stage : Stage) :
    (looseUniform? ((ofInterface p i vertexMain fragmentMain).body stage)).isSome ↔
      (∃ d ∈ i.listing stage .uniforms,
        (looseUniform? (d.declarationLine "uniform" p.arrayLengths ++ "\n")).isSome) ∨
      ∃ text ∈ piecesBefore p i stage ++ piecesBehind p i (perStage vertexMain fragmentMain stage) stage,
        (looseUniform? text).isSome := by
  have before := ended_piecesBefore p i stage
  have behind := ended_piecesBehind p i (perStage vertexMain fragmentMain stage) stage
  have uniforms : Ended (uniformSection p.arrayLengths (i.listing stage .uniforms)) := ended_titled _ _
  rw [body_eq_pieces, looseUniform?_append ((Ended.join before).append uniforms),
    looseUniform?_append (.join before), Option.isSome_or, Option.isSome_or, Bool.or_eq_true,
    Bool.or_eq_true, isSome_looseUniform?_uniformSection, FrontEnd.isSome_looseUniform?_join before,
    FrontEnd.isSome_looseUniform?_join behind]
  simp only [List.mem_append, or_and_right, exists_or]
  rw [or_assoc, or_left_comm]

end Emission

namespace Library

open FrontEnd (looseUniform?)

variable {library : Library} {settings : Settings} {p : Permutation} {e : Emission}

theorem statedVersion_of_build (built : library.build settings p = .ok e) (stage : Stage) :
    FrontEnd.statedVersion (e.preamble stage) = .ok p.dialect.version := by
  obtain ⟨pair, -, rfl⟩ := build_eq_ok_iff.1 built
  obtain ⟨features, same⟩ := (agrees_derived library p).rest
  rw [same]
  cases stage <;> exact FrontEnd.statedVersion_directives _ _

/-- Where the search sees nothing, the front end decides about the stage. -/
theorem answer_of_unseen (built : library.build settings p = .ok e) (stage : Stage)
    (new : FrontEnd.oldestVersion ≤ p.dialect.version)
    (unseen : looseUniform? (e.body stage) = none) :
    e.answer (FrontEnd.optimizer fun _ _ => .ok ()) stage = .ok (e.body stage) :=
  FrontEnd.optimizer_of_none (statedVersion_of_build built stage) new unseen stage

/-- The uniforms of a stage are declared in lines of their own, between pieces that end with a line. -/
theorem search_of_build (built : library.build settings p = .ok e) (stage : Stage) :
    ∃ before behind : List String,
      e.body stage = String.join before ++
        Emission.uniformSection p.arrayLengths (e.interface.listing stage .uniforms) ++
          String.join behind ∧
      ((looseUniform? (e.body stage)).isSome ↔
        (∃ d ∈ e.interface.listing stage .uniforms,
          (looseUniform? (d.declarationLine "uniform" p.arrayLengths ++ "\n")).isSome) ∨
        ∃ text ∈ before ++ behind, (looseUniform? text).isSome) := by
  obtain ⟨pair, -, rfl⟩ := build_eq_ok_iff.1 built
  rw [← arrayLengths_derived library p]
  exact ⟨_, _, Emission.body_eq_pieces .., Emission.isSome_looseUniform?_body ..⟩

/--
The search finds a loose uniform in a stage as soon as the name of one of its uniforms goes over no line
end, and no brace is in that name or in the first line of its comment, whatever else the text is made of.
In a version that the front end reads, the optimizer then refuses the stage without asking the front end.
Where each uniform has one line, the search sees no others: it finds one just if a uniform is scannable, or
if one of the pieces around them holds a line that looks like one.
-/
theorem scannable_uniform_refused (built : library.build settings p = .ok e) (stage : Stage) :
    let uniforms := e.interface.listing stage .uniforms
    ((∃ d ∈ uniforms, d.Scannable) → ∃ name, looseUniform? (e.body stage) = some name ∧
        (FrontEnd.oldestVersion ≤ p.dialect.version → ∀ read,
          e.answer (FrontEnd.optimizer read) stage =
            .error { stage, log := (FrontEnd.Refusal.looseUniform name).message })) ∧
      ∃ before behind : List String,
        e.body stage = String.join before ++ Emission.uniformSection p.arrayLengths uniforms ++
          String.join behind ∧
        ((∀ d ∈ uniforms, d.OneLine) →
          ((looseUniform? (e.body stage)).isSome ↔ (∃ d ∈ uniforms, d.Scannable) ∨
            ∃ text ∈ before ++ behind, (looseUniform? text).isSome)) := by
  intro uniforms
  obtain ⟨before, behind, body, searched⟩ := search_of_build built stage
  refine ⟨?_, before, behind, body, fun one => ?_⟩
  · rintro ⟨d, hd, scannable⟩
    have seen := searched.2 (.inl ⟨d, hd, scannable.isSome_looseUniform? _⟩)
    obtain ⟨name, found⟩ := Option.isSome_iff_exists.1 seen
    exact ⟨name, found, fun new read =>
      FrontEnd.optimizer_of_looseUniform (statedVersion_of_build built stage) new found read stage⟩
  · have among : (∃ d ∈ uniforms, d.Scannable) ↔ ∃ d ∈ uniforms,
        (looseUniform? (d.declarationLine "uniform" p.arrayLengths ++ "\n")).isSome :=
      exists_congr fun d => and_congr_right fun hd =>
        ((one d hd).isSome_looseUniform?_iff p.arrayLengths).symm
    rw [among]
    exact searched

/-- A wave that moves the surface and has the matrix of the camera declared. -/
def wave (name : String) : Library := ⟨[
  (Snippet.plain .worldDepthTransformation name "this is not glsl").declaring
      (Catalog.parameter EngineUniform.projectionViewMatrix)
    |>.declaring ((Catalog.parameter SharedValue.worldPosition).withQualifier .output)]⟩

/-- The depth pass of a surface that the wave moves. -/
def waveDepth (name : String) : Permutation :=
  .resolve {} { worldTransformation := some name } { dialect := .glsl450, purpose := .depth }

/-- The uniform of a plain wave is found, so no front end is asked about its vertex stage. -/
theorem wave_refused :
    ∃ e name, (wave "wave").build {} (waveDepth "wave") = .ok e ∧
      ∀ read, e.answer (FrontEnd.optimizer read) .vertex =
        .error { stage := .vertex, log := (FrontEnd.Refusal.looseUniform name).message } := by
  obtain ⟨e, built, filled⟩ : ∃ e, (wave "wave").build {} (waveDepth "wave") = .ok e ∧
      (e.interface.vertexUniforms.any fun d => d.Scannable) = true :=
    exists_of_any (by decide +kernel)
  obtain ⟨d, hd, scannable⟩ := List.any_eq_true.1 filled
  obtain ⟨name, -, refused⟩ := (scannable_uniform_refused built .vertex).1
    ⟨d, hd, of_decide_eq_true scannable⟩
  exact ⟨e, name, built, refused (by decide)⟩

/-- A wave with a brace in its name hides its uniform, and the front end decides about the stage. -/
theorem braced_wave_unseen :
    ∃ e, (wave "wave\x7b2\x7d").build {} (waveDepth "wave\x7b2\x7d") = .ok e ∧
      e.interface.vertexUniforms ≠ [] ∧ looseUniform? (e.body .vertex) = none ∧
      e.answer (FrontEnd.optimizer fun _ _ => .ok ()) .vertex = .ok (e.body .vertex) := by
  let library := wave "wave\x7b2\x7d"
  let p := waveDepth "wave\x7b2\x7d"
  obtain ⟨pair, composed, search⟩ : ∃ pair, library.stages {} p = .ok pair ∧
      decide (
        let i := Interface.ofScopes pair.vertex.scope pair.fragment.scope
        i.vertexUniforms ≠ [] ∧
        (∀ d ∈ i.vertexUniforms,
          looseUniform? (d.declarationLine "uniform" (library.derived p).arrayLengths ++ "\n") = none) ∧
        ∀ text ∈ Emission.piecesBefore (library.derived p) i .vertex ++
            Emission.piecesBehind (library.derived p) i pair.vertex.main .vertex,
          looseUniform? text = none) = true :=
    exists_of_any (by decide +kernel)
  obtain ⟨filled, declared, around⟩ := of_decide_eq_true search
  have built := build_eq_ok_iff.2 ⟨pair, composed, rfl⟩
  have unseen : looseUniform? ((Emission.ofInterface (library.derived p)
      (.ofScopes pair.vertex.scope pair.fragment.scope) pair.vertex.main pair.fragment.main).body
        .vertex) = none := by
    rw [← Option.not_isSome_iff_eq_none, Emission.isSome_looseUniform?_body]
    rintro (⟨d, hd, seen⟩ | ⟨text, member, seen⟩)
    · rw [declared d hd] at seen
      cases seen
    · rw [around text member] at seen
      cases seen
  exact ⟨_, built, filled, unseen, answer_of_unseen built .vertex (by decide) unseen⟩

end Library

end ShaderComposition
