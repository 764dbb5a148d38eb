import ShaderComposition.Proofs.Composition.Declarations
import ShaderComposition.Proofs.Snippet.BodyLines

/-!
# The pieces of a main function

The text of a main function is made of pieces: lines of the program's own, and the blocks of snippets
(`Piece.Writes`). `StageSource.main_of_addAll` says which pieces a list of parts writes. The lines of the
program's own are what they are whatever the bodies of the snippets are: with other bodies the same snippets
are looked up, the same features derived and the same parts planned (`Library.pieces_withBodies`).
-/

namespace ShaderComposition

/-- A piece of a main function: lines of the program's own, or a snippet at its indentation. -/
inductive Piece
  | own (lines : String)
  | snippet (s : Snippet) (indent : Nat)

namespace Piece

def text : Piece → String
  | own lines => lines
  | snippet s indent => s.text indent

/-- The snippet that a piece writes. -/
def snippet? : Piece → Option Snippet
  | own _ => none
  | snippet s _ => some s

/-- What a piece is as a text: the lines as they are, or the block of the snippet. -/
inductive Writes : Piece → String → Prop
  | own (lines : String) : Writes (.own lines) lines
  | snippet {s : Snippet} {indent : Nat} {text : String} :
      s.Block indent text → Writes (.snippet s indent) text

theorem writes_text (piece : Piece) : piece.Writes piece.text := by
  cases piece with
  | own lines => exact .own lines
  | snippet s indent => exact .snippet (s.block_text indent)

theorem forall₂_writes (pieces : List Piece) : List.Forall₂ Writes pieces (pieces.map text) := by
  rw [List.forall₂_map_right_iff, List.forall₂_same]
  exact fun piece _ => piece.writes_text

/-- The text that pieces make. -/
def join (pieces : List Piece) : String :=
  String.join (pieces.map text)

@[simp] theorem join_nil : join [] = "" := rfl

@[simp] theorem join_cons (piece : Piece) (pieces : List Piece) :
    join (piece :: pieces) = piece.text ++ join pieces := by
  rw [join, List.map_cons, String.join_cons, join]

theorem join_append (first second : List Piece) :
    join (first ++ second) = join first ++ join second := by
  rw [join, List.map_append, String.join_append, join, join]

end Piece

namespace LightBlock

/-- The block up to the light snippet. -/
def opening (b : LightBlock) (locals : List Parameter) (lengths : ArrayLengths) : String :=
  Text.line 1 ("/* " ++ lightingSource ++ " */") ++ Text.line 1 "\x7b" ++
  String.join (locals.map fun p => Text.line 2 (p.declaration lengths ++ ";")) ++ "\n" ++
  Statement.lines 2 b.prologue ++
  Text.line 2 ("for (i = " ++ toString b.range.first ++ "; i < " ++ b.range.end?.expression.text ++
    "; ++i)") ++
  Text.line 2 "\x7b" ++ Statement.lines 3 b.fetch

/-- The block after the light snippet. -/
def closing (b : LightBlock) : String :=
  Statement.lines 3 b.accumulate ++ Text.line 2 "\x7d" ++ Statement.lines 2 b.epilogue ++
    Text.line 1 "\x7d"

theorem text_eq (b : LightBlock) (locals : List Parameter) (lengths : ArrayLengths) :
    b.text locals lengths = b.opening locals lengths ++ (b.light.text 3 ++ b.closing) := by
  simp only [text, loopText, opening, closing, String.append_assoc]

end LightBlock

/-! ## Parts -/

namespace Part

variable {lengths : ArrayLengths} {part : Part} {xs : List Parameter} {text : String}

/-- What a part keeps to itself: the locals of a light block. -/
def locals : Part → List Parameter
  | .snippet _ | .code _ _ => []
  | .lights block => match block.scope with
    | .ok inner => inner.locals
    | .error _ => []

/-- The snippet whose body a part writes. -/
def snippet? : Part → Option Snippet
  | .snippet s => some s
  | .code _ _ => none
  | .lights block => some block.light

/-- The pieces that a part writes. -/
def pieces (lengths : ArrayLengths) : Part → List Piece
  | .snippet s => [.snippet s 1]
  | .code _ statements => [.own (Statement.lines 1 statements)]
  | .lights block =>
    [.own (block.opening (locals (.lights block)) lengths), .snippet block.light 3, .own block.closing]

theorem locals_lights {block : LightBlock} {inner : Scope} (inside : block.scope = .ok inner) :
    locals (.lights block) = inner.locals := by
  simp only [locals, inside]

/-- What a part adds to the text is made of its pieces. -/
theorem text_of_yields (h : part.yields lengths = .ok (xs, text)) :
    text = Piece.join (part.pieces lengths) := by
  cases part with
  | snippet s =>
    cases h
    simp [pieces, Piece.text]
  | code parameters statements =>
    cases h
    simp [pieces, Piece.text]
  | lights block =>
    obtain ⟨inner, inside, -, rfl⟩ := yields_lights_iff.1 h
    simp [pieces, Piece.text, locals_lights inside, LightBlock.text_eq]

theorem snippet?_of_pieces (lengths : ArrayLengths) (part : Part) :
    (part.pieces lengths).filterMap Piece.snippet? = part.snippet?.toList := by
  cases part <;> rfl

end Part

/-- The text of a stage is followed by the pieces of the parts that are added to it. -/
theorem StageSource.main_of_addAll {s t : StageSource} {lengths : ArrayLengths} {parts : List Part}
    (h : s.addAll lengths parts = .ok t) :
    t.main = s.main ++ Piece.join (parts.flatMap (Part.pieces lengths)) := by
  induction parts generalizing s with
  | nil =>
    cases h
    simp
  | cons part parts ih =>
    obtain ⟨u, step, rest⟩ := addAll_cons_eq_ok_iff.1 h
    obtain ⟨xs, text, yields, -, main⟩ := add_cases step
    rw [ih rest, main, Part.text_of_yields yields, List.flatMap_cons, Piece.join_append,
      String.append_assoc]

namespace Library

/-- The pieces that a stage of the program of a permutation writes. -/
def pieces (library : Library) (settings : Settings) (p : Permutation) (stage : Stage) : List Piece :=
  (library.parts settings p stage).flatMap (Part.pieces (library.derived p).arrayLengths)

/-- The main function of a stage is made of its pieces. -/
theorem main_eq_join {library : Library} {settings : Settings} {p : Permutation} {stage : Stage}
    {source : StageSource}
    (made : StageSource.ofParts (library.derived p).arrayLengths stage
      (library.parts settings p stage) = .ok source) :
    source.main = Piece.join (library.pieces settings p stage) := by
  rw [StageSource.main_of_addAll made, pieces]
  exact String.empty_append

end Library

/-! ## Other bodies -/

/-- The snippet with another body. -/
def Snippet.withBody (bodies : Snippet → String) (s : Snippet) : Snippet :=
  { s with body := bodies s }

/-- The piece with another body in place of the one of its snippet; other lines stay as they are. -/
def Piece.withBody (bodies : Snippet → String) : Piece → Piece
  | own lines => own lines
  | snippet s indent => snippet (s.withBody bodies) indent

/-- The part with another body in place of the one of its snippet. -/
def Part.withBody (bodies : Snippet → String) : Part → Part
  | snippet s => snippet (s.withBody bodies)
  | code parameters statements => code parameters statements
  | lights block => lights { block with light := block.light.withBody bodies }

/-- A part writes the same lines around another body. -/
theorem Part.pieces_withBody (bodies : Snippet → String) (lengths : ArrayLengths) (part : Part) :
    (part.withBody bodies).pieces lengths = (part.pieces lengths).map (Piece.withBody bodies) := by
  cases part <;> rfl

/-- The selected snippets with other bodies. -/
def Selection.withBodies (bodies : Snippet → String) (select : Selection) : Selection :=
  fun role stage => (select role stage).map (Snippet.withBody bodies)

namespace Plan

variable {bodies : Snippet → String} {p : Permutation} {scale : Float32} {select : Selection}
  {role : Role} {stage : Stage} {needed shadowed : Bool} {parts : List Part}

theorem job_withBodies :
    job (select.withBodies bodies) role stage = (job select role stage).map (Part.withBody bodies) := by
  unfold job Selection.withBodies
  cases select role stage <;> rfl

theorem map_when : (when needed parts).map (Part.withBody bodies) =
    when needed (parts.map (Part.withBody bodies)) := by
  cases needed <;> rfl

theorem withBody_of_own {part : Part} (own : part ∈ ownCode p) : part.withBody bodies = part := by
  obtain ⟨parameters, statements, rfl⟩ := exists_code_of_own own
  rfl

theorem lighting_withBodies : lighting p scale (select.withBodies bodies) stage shadowed =
    (lighting p scale select stage shadowed).map (Part.withBody bodies) := by
  unfold lighting Selection.withBodies
  cases select .light stage with
  | some light => rfl
  | none =>
    show [ambient p stage] = [(ambient p stage).withBody bodies]
    rw [withBody_of_own ambient_mem_ownCode]

theorem colorLighting_withBodies : colorLighting p scale (select.withBodies bodies) =
    (colorLighting p scale select).map (Part.withBody bodies) := by
  unfold colorLighting
  cases p.fragmentLighting with
  | true =>
    cases p.receivesShadows <;> simp [job_withBodies, lighting_withBodies]
  | false =>
    simp only [Bool.false_eq_true, if_false]
    split
    · rw [List.map_singleton, withBody_of_own ambient_mem_ownCode]
    · rfl

theorem surface_withBodies : surface p scale (select.withBodies bodies) =
    (surface p scale select).map (Part.withBody bodies) := by
  have colored : (colorOutput p).withBody bodies = colorOutput p :=
    withBody_of_own (p := p) (by simp [ownCode])
  unfold surface
  cases p.purpose with
  | color =>
    simp only [List.map_append, List.map_singleton, job_withBodies, colorLighting_withBodies, colored]
  | depth => rfl
  | shadow =>
    simp only [List.map_append, job_withBodies]
    rfl

/-- The parts of a stage are the same but for the bodies in them. -/
theorem stage_withBodies (bodies : Snippet → String) (p : Permutation) (scale : Float32)
    (select : Selection) (stage : Stage) : Plan.stage p scale (select.withBodies bodies) stage =
      (Plan.stage p scale select stage).map (Part.withBody bodies) := by
  have projected : projection.withBody bodies = projection := rfl
  have tested : alphaTest.withBody bodies = alphaTest := rfl
  have covered : (alphaOutput p).withBody bodies = alphaOutput p :=
    withBody_of_own (p := p) (by simp [ownCode])
  cases stage with
  | vertex =>
    simp only [Plan.stage, vertex, List.map_append, List.map_singleton, map_when, job_withBodies,
      lighting_withBodies, projected]
  | fragment =>
    simp only [Plan.stage, fragment, List.map_append, List.map_singleton, map_when, job_withBodies,
      surface_withBodies, tested, covered]

end Plan

theorem Permutation.deriveFeatures_withBodies (bodies : Snippet → String) (select : Selection)
    (p : Permutation) : p.deriveFeatures (select.withBodies bodies) = p.deriveFeatures select := by
  have same : derive (select.withBodies bodies) = derive select := by
    funext q f value
    simp only [derive, reads, Selection.withBodies, Option.any_map]
    rfl
  unfold deriveFeatures
  rw [same]

namespace Library

variable {library : Library} {settings : Settings} {p : Permutation} {bodies : Snippet → String}

theorem select_eq_bind (library : Library) (p : Permutation) (role : Role) (stage : Stage) :
    library.select p role stage =
      (p.bindings.name? role).bind fun name => library.lookup role name stage p.dialect p.packing := by
  unfold select
  cases p.bindings.name? role <;> rfl

/-- The library with other bodies of its snippets. -/
def withBodies (library : Library) (bodies : Snippet → String) : Library :=
  ⟨library.snippets.map (Snippet.withBody bodies)⟩

theorem lookup_withBodies (role : Role) (name : String) (stage : Stage) (dialect : Dialect)
    (packing : Packing) : (library.withBodies bodies).lookup role name stage dialect packing =
      (library.lookup role name stage dialect packing).map (Snippet.withBody bodies) := by
  have find (packing : Packing) : (library.withBodies bodies).find? role name stage dialect packing =
      (library.find? role name stage dialect packing).map (Snippet.withBody bodies) :=
    List.find?_map ..
  cases packing with
  | default => exact find .default
  | merged => rw [lookup, find, find, ← Option.map_or, lookup]

theorem select_withBodies :
    (library.withBodies bodies).select p = (library.select p).withBodies bodies := by
  funext role stage
  rw [Selection.withBodies, select_eq_bind, select_eq_bind, Option.map_bind]
  simp only [lookup_withBodies]
  rfl

/-- Of what a stage writes, only the blocks of snippets depend on the bodies. -/
theorem pieces_withBodies (stage : Stage) : (library.withBodies bodies).pieces settings p stage =
    (library.pieces settings p stage).map (Piece.withBody bodies) := by
  have derived : (library.withBodies bodies).derived p = library.derived p := by
    rw [Library.derived, select_withBodies, Permutation.deriveFeatures_withBodies, Library.derived]
  have parts : (library.withBodies bodies).parts settings p stage =
      (library.parts settings p stage).map (Part.withBody bodies) := by
    rw [Library.parts, derived, select_withBodies, Plan.stage_withBodies, Library.parts]
  rw [pieces, derived, parts, pieces, List.flatMap_map, List.map_flatMap]
  simp only [Part.pieces_withBody]

end Library

end ShaderComposition
